/-! Cutting a sequence into lines, for characters and for bytes alike. -/

namespace ByteMachine.Text

variable {α : Type}

def joinFirst (first : List α) : List (List α) → List (List α)
  | [] => [first]
  | piece :: rest => (first ++ piece) :: rest

theorem flatten_joinFirst (first : List α) (pieces : List (List α)) :
    (joinFirst first pieces).flatten = first ++ pieces.flatten := by
  cases pieces with
  | nil => rfl
  | cons piece rest => exact List.append_assoc ..

theorem joinFirst_append {first second : List α} (pieces : List (List α)) :
    joinFirst first (joinFirst second pieces) = joinFirst (first ++ second) pieces := by
  cases pieces with
  | nil => rfl
  | cons piece rest => simp only [joinFirst, List.append_assoc]

variable [BEq α]

def addItem (stop a : α) (pieces : List (List α)) : List (List α) :=
  if a == stop then [a] :: pieces else joinFirst [a] pieces

/-- Each piece runs up to a stop and holds it; only the last may lack one. -/
def pieces (stop : α) (items : List α) : List (List α) :=
  items.foldr (addItem stop) []

theorem pieces_cons_stop {stop a : α} (h : a == stop) (items : List α) :
    pieces stop (a :: items) = [a] :: pieces stop items :=
  if_pos h

theorem pieces_cons_other {stop a : α} (h : (a == stop) = false) (items : List α) :
    pieces stop (a :: items) = joinFirst [a] (pieces stop items) :=
  if_neg (by simp only [h, Bool.false_eq_true, not_false_eq_true])

theorem pieces_append {stop : α} {first : List α} (hne : first ≠ [])
    (h : ∀ a ∈ first, (a == stop) = false) (items : List α) :
    pieces stop (first ++ items) = joinFirst first (pieces stop items) := by
  induction first with
  | nil => exact absurd rfl hne
  | cons a first ih =>
    rw [List.cons_append, pieces_cons_other (h a List.mem_cons_self)]
    cases first with
    | nil => rfl
    | cons b first =>
      rw [ih (List.cons_ne_nil _ _) fun x hx => h x (List.mem_cons_of_mem _ hx),
        joinFirst_append, List.singleton_append]

theorem beq_eq_false_of_not_mem [LawfulBEq α] {stop : α} {first : List α} (h : stop ∉ first) :
    ∀ a ∈ first, (a == stop) = false := by
  intro a mem
  rw [beq_eq_false_iff_ne]
  rintro rfl
  exact h mem

theorem pieces_append_stop [LawfulBEq α] {stop : α} {first : List α} (h : stop ∉ first)
    (items : List α) :
    pieces stop (first ++ stop :: items) = (first ++ [stop]) :: pieces stop items := by
  have stops : stop == stop := beq_self_eq_true stop
  cases first with
  | nil => exact pieces_cons_stop stops items
  | cons a first =>
    rw [pieces_append (List.cons_ne_nil a first) (beq_eq_false_of_not_mem h),
      pieces_cons_stop stops]
    rfl

theorem flatten_pieces (stop : α) (items : List α) : (pieces stop items).flatten = items := by
  induction items with
  | nil => rfl
  | cons a items ih =>
    cases h : a == stop with
    | true => rw [pieces_cons_stop h, List.flatten_cons, ih, List.singleton_append]
    | false => rw [pieces_cons_other h, flatten_joinFirst, ih, List.singleton_append]

def chomp (line : List Char) : List Char :=
  match line.reverse with
  | '\n' :: '\r' :: rest => rest.reverse
  | '\n' :: rest => rest.reverse
  | _ => line

def lines (text : List Char) : List (List Char) :=
  (pieces '\n' text).map chomp

end ByteMachine.Text
