import ByteMachine.Debugger.Execute
import ByteMachine.Proofs.Debugger.NumberForms
import ByteMachine.Proofs.Debugger.Splitting

/-! What a line asks of the machine, told by what is written on it: its words, the verb that the
first of them is a name of, and the number that the second one is. -/

namespace ByteMachine

namespace Debugger

variable {line word : String} {words rest : List String} {verb : Verb} {address : UInt64}

def Words (line : String) (words : List String) : Prop :=
  ∃ text pieces, Stripped line.toList text ∧ Reads text pieces [] ∧
    words = (pieces.filterMap Piece.argument?).map String.ofList

def LeftOpen (line : String) : Prop :=
  ∃ text, Stripped line.toList text ∧ Unclosed text

theorem words_iff : Words line words ↔ arguments? line = some words := by
  obtain ⟨text, stripped, only⟩ := existsUnique_stripped line.toList
  rw [arguments?_eq_some_iff stripped]
  constructor
  · rintro ⟨text', pieces, stripped', reads, rfl⟩
    obtain rfl := only text' stripped'
    exact ⟨pieces, reads, rfl⟩
  · rintro ⟨pieces, reads, rfl⟩
    exact ⟨text, pieces, stripped, reads, rfl⟩

theorem leftOpen_iff : LeftOpen line ↔ arguments? line = none := by
  obtain ⟨text, stripped, only⟩ := existsUnique_stripped line.toList
  rw [arguments?_eq_none_iff stripped]
  constructor
  · rintro ⟨text', stripped', unclosed⟩
    exact only text' stripped' ▸ unclosed
  · exact fun unclosed => ⟨text, stripped, unclosed⟩

/-- The word is a name of the verb in some letter case. -/
def Verb.Called (verb : Verb) (word : String) : Prop :=
  ∃ name ∈ verb.names, Text.Lowers word.toList name.toList

theorem Verb.plain_of_mem_names {name : String} (mem : name ∈ verb.names) :
    (∀ c ∈ name.toList, c.toNat < 128) ∧ Text.lower name.toList = name.toList := by
  have known : ∀ verb ∈ all, ∀ name ∈ verb.names,
      name.toList.all (·.toNat < 128) ∧ Text.lower name.toList = name.toList := by decide
  obtain ⟨ascii, own⟩ := known verb verb.mem_all name mem
  exact ⟨fun c mem => of_decide_eq_true (List.all_eq_true.1 ascii c mem), own⟩

theorem Verb.called_iff : verb.Called word ↔ ofName? word = some verb := by
  constructor
  · rintro ⟨name, mem, lowers⟩
    obtain ⟨ascii, own⟩ := plain_of_mem_names mem
    rw [← ofName?_of_mem_names mem, ofName?, ofName?, own, lowers.eq_lower ascii]
  · intro found
    have mem := List.find?_some found
    refine ⟨_, List.contains_iff_mem.1 mem, ?_⟩
    rw [String.toList_ofList]
    exact Text.lowers_lower word.toList

theorem interpret_eq_ok_iff {command : Command} : interpret line = .ok command ↔
    ∃ word, Words line (word :: command.arguments) ∧ command.verb.Called word := by
  obtain ⟨verb, rest⟩ := command
  simp only [words_iff, Verb.called_iff]
  unfold interpret
  split
  · rename_i unclosed
    simp [unclosed]
  · rename_i blank
    simp [blank]
  · rename_i word words found
    cases named : Verb.ofName? word with
    | none => simp [found, named]
    | some verb' =>
      simp only [found, Except.ok.injEq, Command.mk.injEq, Option.some.injEq,
        List.cons.injEq]
      constructor
      · rintro ⟨rfl, rfl⟩
        exact ⟨word, ⟨rfl, rfl⟩, named⟩
      · rintro ⟨word, ⟨rfl, rfl⟩, named'⟩
        exact ⟨Option.some.inj (named.symm.trans named'), rfl⟩

inductive Demand where
  | nothing
  | steps (count : Nat)
  | runToBreak
  deriving DecidableEq

/-- A step alone is one step, and without a number to be read behind it none. All that is not known
or does not concern the machine asks for nothing. -/
inductive Asks (line : String) : Demand → Prop
  | leftOpen (dangling : LeftOpen line) : Asks line .nothing
  | blank (words : Words line []) : Asks line .nothing
  | unknown {word : String} {rest : List String} (words : Words line (word :: rest))
      (strange : ∀ verb : Verb, ¬ verb.Called word) : Asks line .nothing
  | step {word : String} (words : Words line [word]) (called : Verb.step.Called word) :
      Asks line (.steps 1)
  | steps {word text : String} {rest : List String} {count : UInt64}
      (words : Words line (word :: text :: rest)) (called : Verb.step.Called word)
      (written : Written text.toList count.toNat) : Asks line (.steps count.toNat)
  | uncounted {word text : String} {rest : List String} (words : Words line (word :: text :: rest))
      (called : Verb.step.Called word)
      (unwritten : ∀ count : UInt64, ¬ Written text.toList count.toNat) : Asks line .nothing
  | resume {word : String} {rest : List String} (words : Words line (word :: rest))
      (called : Verb.resume.Called word) : Asks line .runToBreak
  | aside {word : String} {rest : List String} {verb : Verb} (words : Words line (word :: rest))
      (called : verb.Called word) (other : verb ≠ .step ∧ verb ≠ .resume) : Asks line .nothing

def Command.demand (command : Command) : Demand :=
  match command.verb with
  | .step =>
    match numberOr 1 command.arguments.head? with
    | .ok count => .steps count.toNat
    | .error _ => .nothing
  | .resume => .runToBreak
  | _ => .nothing

def demand (line : String) : Demand :=
  match interpret line with
  | .error _ => .nothing
  | .ok command => command.demand

theorem demand_of_called (words : Words line (word :: rest)) (called : verb.Called word) :
    demand line = Command.demand { verb, arguments := rest } := by
  have interpreted : interpret line = .ok { verb, arguments := rest } :=
    interpret_eq_ok_iff.2 ⟨word, words, called⟩
  rw [demand, interpreted]

theorem demand_of_not_interpreted (refused : ∀ command, interpret line ≠ .ok command) :
    demand line = .nothing := by
  rw [demand]
  split
  · rfl
  · rename_i command interpreted
    exact absurd interpreted (refused command)

theorem Words.unique (h : Words line words) (h' : Words line rest) : words = rest := by
  rw [words_iff] at h h'
  exact Option.some.inj (h.symm.trans h')

theorem Asks.eq_demand {wanted : Demand} (asks : Asks line wanted) : wanted = demand line := by
  cases asks with
  | leftOpen dangling =>
    refine (demand_of_not_interpreted fun command interpreted => ?_).symm
    obtain ⟨word, words, -⟩ := interpret_eq_ok_iff.1 interpreted
    cases (leftOpen_iff.1 dangling).symm.trans (words_iff.1 words)
  | blank none =>
    refine (demand_of_not_interpreted fun command interpreted => ?_).symm
    obtain ⟨word, words, -⟩ := interpret_eq_ok_iff.1 interpreted
    cases none.unique words
  | unknown words strange =>
    refine (demand_of_not_interpreted fun command interpreted => ?_).symm
    obtain ⟨word, words', called⟩ := interpret_eq_ok_iff.1 interpreted
    cases words.unique words'
    exact strange _ called
  | step words called =>
    rw [demand_of_called words called]
    rfl
  | steps words called written =>
    have read := readNumber_eq_ok_iff_written.2 written
    rw [demand_of_called words called]
    simp only [Command.demand, List.head?_cons, numberOr, read]
  | uncounted words called unwritten =>
    rw [demand_of_called words called]
    simp only [Command.demand, List.head?_cons, numberOr]
    split
    · rename_i count read
      exact absurd (readNumber_eq_ok_iff_written.1 read) (unwritten count)
    · rfl
  | resume words called =>
    rw [demand_of_called words called]
    rfl
  | aside words called other =>
    rw [demand_of_called words called]
    rename_i verb
    cases verb with
    | step => exact absurd rfl other.1
    | resume => exact absurd rfl other.2
    | _ => rfl

theorem exists_asks (line : String) : ∃ wanted, Asks line wanted := by
  cases found : arguments? line with
  | none => exact ⟨_, .leftOpen (leftOpen_iff.2 found)⟩
  | some all =>
    have words : Words line all := words_iff.2 found
    cases all with
    | nil => exact ⟨_, .blank words⟩
    | cons word rest =>
      by_cases known : ∃ verb : Verb, verb.Called word
      · obtain ⟨verb, called⟩ := known
        cases verb with
        | resume => exact ⟨_, .resume words called⟩
        | step =>
          cases rest with
          | nil => exact ⟨_, .step words called⟩
          | cons text rest =>
            by_cases counted : ∃ count : UInt64, Written text.toList count.toNat
            · obtain ⟨count, written⟩ := counted
              exact ⟨_, .steps words called written⟩
            · exact ⟨_, .uncounted words called fun count written => counted ⟨count, written⟩⟩
        | _ => exact ⟨_, .aside words called ⟨nofun, nofun⟩⟩
      · exact ⟨_, .unknown words fun verb called => known ⟨verb, called⟩⟩

theorem existsUnique_asks (line : String) : ∃! wanted, Asks line wanted := by
  obtain ⟨wanted, asks⟩ := exists_asks line
  exact ⟨wanted, asks, fun _ other => other.eq_demand.trans asks.eq_demand.symm⟩

theorem asks_iff {wanted : Demand} : Asks line wanted ↔ demand line = wanted := by
  obtain ⟨wanted', asks⟩ := exists_asks line
  constructor
  · exact fun asks => asks.eq_demand.symm
  · rintro rfl
    exact asks.eq_demand ▸ asks

theorem Asks.interpreted (asks : Asks line .runToBreak) :
    ∃ command, interpret line = .ok command ∧ command.verb = .resume := by
  cases asks with
  | resume words called =>
    exact ⟨⟨.resume, _⟩, interpret_eq_ok_iff.2 ⟨_, words, called⟩, rfl⟩

/-- The line calls for the verb and has an address behind its name. -/
def Names (verb : Verb) (line : String) (address : UInt64) : Prop :=
  ∃ word text rest, Words line (word :: text :: rest) ∧ verb.Called word ∧
    Written text.toList address.toNat

theorem names_iff : Names verb line address ↔ ∃ command, interpret line = .ok command ∧
    command.verb = verb ∧ command.arguments.head?.map readNumber = some (.ok address) := by
  constructor
  · rintro ⟨word, text, rest, words, called, written⟩
    refine ⟨⟨verb, text :: rest⟩, interpret_eq_ok_iff.2 ⟨word, words, called⟩, rfl, ?_⟩
    exact congrArg some (readNumber_eq_ok_iff_written.2 written)
  · rintro ⟨⟨verb, arguments⟩, interpreted, rfl, read⟩
    obtain ⟨word, words, called⟩ := interpret_eq_ok_iff.1 interpreted
    cases arguments with
    | nil => cases read
    | cons text rest =>
      exact ⟨word, text, rest, words, called,
        readNumber_eq_ok_iff_written.1 (Option.some.inj read)⟩

end Debugger
end ByteMachine
