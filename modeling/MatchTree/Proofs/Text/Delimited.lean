import Mathlib.Data.List.Forall2

/-!
Texts that end by themselves.

Two texts are told apart if, whatever follows them, they begin a text alike only where they agree,
and then both end at the same place. What is put together of such parts, one after the other or
with separators between, is told apart as well, as soon as something no part begins with
stands at the end.
-/

set_option autoImplicit false
namespace MatchTree

/-- What is inside a front ends where the rest begins. -/
theorem append_inj_of_stops {p : Char → Bool} {front front' rest rest' : List Char}
    (inside : ∀ c ∈ front, p c = true) (inside' : ∀ c ∈ front', p c = true)
    (stops : ∀ c ∈ rest.head?, p c = false) (stops' : ∀ c ∈ rest'.head?, p c = false)
    (same : front ++ rest = front' ++ rest') : front = front' ∧ rest = rest' := by
  have nothing {rest : List Char} (stops : ∀ c ∈ rest.head?, p c = false) :
      rest.takeWhile p = [] := by
    cases rest with
    | nil => rfl
    | cons c rest => rw [List.takeWhile_cons_of_neg (by simp [stops c rfl])]
  have taken := congrArg (List.takeWhile p) same
  rw [List.takeWhile_append_of_pos inside, List.takeWhile_append_of_pos inside', nothing stops,
    nothing stops', List.append_nil, List.append_nil] at taken
  exact ⟨taken, List.append_cancel_left (taken ▸ same)⟩

section
variable {α : Type} {ends : List Char → Prop} {text : α → List Char} {agree : α → α → Prop}

/-- Before endings of the given kind, the texts of these two are alike only if the two agree. -/
def ToldApart (ends : List Char → Prop) (text : α → List Char) (agree : α → α → Prop)
    (a b : α) : Prop :=
  ∀ rest rest', ends rest → ends rest' → text a ++ rest = text b ++ rest' →
    agree a b ∧ rest = rest'

variable {close : Char} {rest rest' : List Char} {as bs : List α}

/-- Parts one after the other are told apart if no part begins as the end does. -/
theorem flatMap_append_inj (opens : ∀ a rest, (text a ++ rest).head? ≠ some close)
    (onward : ∀ a rest, ends (text a ++ rest)) (closes : ∀ rest, ends (close :: rest))
    (apart : ∀ a ∈ as, ∀ b ∈ bs, ToldApart ends text agree a b)
    (same : as.flatMap text ++ close :: rest = bs.flatMap text ++ close :: rest') :
    List.Forall₂ agree as bs ∧ rest = rest' := by
  -- after a part stands the next, or the end
  have next (cs : List α) (rest : List Char) : ends (cs.flatMap text ++ close :: rest) := by
    cases cs with
    | nil => exact closes rest
    | cons c cs =>
      rw [List.flatMap_cons, List.append_assoc]
      exact onward c _
  induction as generalizing bs with
  | nil =>
    cases bs with
    | nil => exact ⟨.nil, (List.cons.inj same).2⟩
    | cons b bs =>
      rw [List.flatMap_cons, List.append_assoc] at same
      exact absurd (congrArg List.head? same).symm (opens b _)
  | cons a as ih =>
    rw [List.flatMap_cons, List.append_assoc] at same
    cases bs with
    | nil => exact absurd (congrArg List.head? same) (opens a _)
    | cons b bs =>
      rw [List.flatMap_cons, List.append_assoc] at same
      obtain ⟨here, later⟩ := apart a List.mem_cons_self b List.mem_cons_self _ _ (next as rest)
        (next bs rest') same
      obtain ⟨others, after⟩ := ih (fun a member b member' => apart a (List.mem_cons_of_mem _ member)
        b (List.mem_cons_of_mem _ member')) later
      exact ⟨.cons here others, after⟩

/-- After the first part, each has the separator before it. -/
theorem intercalate_map_cons (separator : List Char) (a : α) (as : List α) :
    separator.intercalate ((a :: as).map text) =
      text a ++ as.flatMap fun b => separator ++ text b := by
  induction as generalizing a with
  | nil => simp [List.intercalate_singleton]
  | cons b as ih =>
    rw [List.map_cons, List.map_cons, List.intercalate_cons_cons, ← List.map_cons, ih,
      List.flatMap_cons, List.append_assoc, List.append_assoc]

/-- Parts with separators between are told apart if a separator does not begin as the end does. -/
theorem intercalate_append_inj {mark : Char} {more : List Char} (other : mark ≠ close)
    (opens : ∀ a rest, (text a ++ rest).head? ≠ some close)
    (onward : ∀ rest, ends (mark :: rest)) (closes : ∀ rest, ends (close :: rest))
    (apart : ∀ a ∈ as, ∀ b ∈ bs, ToldApart ends text agree a b)
    (same : (mark :: more).intercalate (as.map text) ++ close :: rest =
      (mark :: more).intercalate (bs.map text) ++ close :: rest') :
    List.Forall₂ agree as bs ∧ rest = rest' := by
  -- after the first part stands a separator, or the end
  have next (cs : List α) (rest : List Char) :
      ends ((cs.flatMap fun c => mark :: more ++ text c) ++ close :: rest) := by
    cases cs with
    | nil => exact closes rest
    | cons c cs => exact onward _
  cases as with
  | nil =>
    cases bs with
    | nil => exact ⟨.nil, (List.cons.inj same).2⟩
    | cons b bs =>
      rw [intercalate_map_cons, List.append_assoc] at same
      exact absurd (congrArg List.head? same).symm (opens b _)
  | cons a as =>
    rw [intercalate_map_cons, List.append_assoc] at same
    cases bs with
    | nil => exact absurd (congrArg List.head? same) (opens a _)
    | cons b bs =>
      rw [intercalate_map_cons, List.append_assoc] at same
      obtain ⟨here, later⟩ := apart a List.mem_cons_self b List.mem_cons_self _ _ (next as rest)
        (next bs rest') same
      -- with the separators before them, the others stand one after the other
      have begins (c : α) (rest : List Char) :
          ((mark :: more ++ text c) ++ rest).head? ≠ some close :=
        fun first => other (Option.some.inj first)
      have separated : ∀ a ∈ as, ∀ b ∈ bs,
          ToldApart ends (fun c => mark :: more ++ text c) agree a b := by
        intro a member b member' rest rest' ending ending' same
        rw [List.append_assoc, List.append_assoc] at same
        exact apart a (List.mem_cons_of_mem _ member) b (List.mem_cons_of_mem _ member') rest rest'
          ending ending' (List.append_cancel_left same)
      obtain ⟨others, after⟩ :=
        flatMap_append_inj begins (fun _ _ => onward _) closes separated later
      exact ⟨.cons here others, after⟩

end
end MatchTree
