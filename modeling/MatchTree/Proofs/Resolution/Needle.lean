import MatchTree.Proofs.Resolution.Made
import MatchTree.Proofs.Test.Substring

/-!
The four tests that look for a needle in a text.

With the case of letters left out, a needle is kept in lower case, two of the tests cut the text by
the number of bytes of the needle, and the other two bring all of it into lower case. All four come
to asking where the needle stands in the text when both are brought into lower case.
-/

set_option autoImplicit false
namespace MatchTree

/-- Where a text is to have a needle. -/
inductive Spot
  | start
  | finish
  | anywhere
  | nowhere

namespace Spot

def kind : Spot → Kind
  | start => .startsWith
  | finish => .endsWith
  | anywhere => .contains
  | nowhere => .notContains

def test : Spot → String → Bool → Test
  | start => .startsWith
  | finish => .endsWith
  | anywhere => .contains
  | nowhere => .notContains

/-- A text has a needle there. -/
def Holds : Spot → (needle text : List Char) → Prop
  | start, needle, text => needle <+: text
  | finish, needle, text => needle <:+ text
  | anywhere, needle, text => needle <:+: text
  | nowhere, needle, text => ¬ needle <:+: text

/-- What is built from a needle and a flag. -/
def expander (spot : Spot) (log : LogId) (needle : String) (flag : Option Bool) : Expander :=
  let ignoreCase := flag.getD false
  .test log (spot.test (.ofList (Substring.fold ignoreCase needle.toList)) ignoreCase)

variable {spot : Spot} {log : LogId} {needle : String} {flag : Option Bool}

theorem needleTest_flagged (test : String → Bool → Test) (name : String) :
    Kind.needleTest test ⟨name, flagged (.literal (.string needle)) flag⟩ =
      .ok (test (.ofList (Substring.fold (flag.getD false) needle.toList)) (flag.getD false)) := by
  rw [Kind.needleTest, Arguments.checkCount_flagged, Arguments.flag_flagged]
  cases flag.getD false
  · exact congrArg (fun kept => Except.ok (test kept false)) (String.ofList_toList).symm
  · rfl

theorem makes_expander {registry : Registry} {name : String}
    (stands : registry.StandsFor name spot.kind) :
    registry.Makes log ⟨name, flagged (.literal (.string needle)) flag⟩
      (spot.expander log needle flag) := by
  have related : List.Forall₂ (Argument.Related (registry.Makes log))
      (flagged (.literal (.string needle)) flag) (flagged (.literal (.string needle)) flag) := by
    cases flag with
    | none => exact .cons (.literal _) .nil
    | some b => exact .cons (.literal _) (.cons (.literal _) .nil)
  refine stands.makes_iff.mpr ⟨_, related, ?_⟩
  cases spot <;> exact congrArg (Except.map (Expander.test log)) (needleTest_flagged _ name)

/-! ## Verdicts -/

/-- A check of a text finds the needle where it is to be. -/
theorem check_ok_iff (kept : String) (ignoreCase : Bool) (s : String)
    (folded : Substring.fold ignoreCase kept.toList = kept.toList) :
    (spot.test kept ignoreCase).check (.string s) = .ok () ↔
      spot.Holds kept.toList (Substring.fold ignoreCase s.toList) := by
  -- the kept needle is folded already, so folding it once more in the check changes nothing
  cases spot with
  | start => exact Test.require_ok_iff.trans ((Substring.begins_iff _).trans (by rw [folded]; rfl))
  | finish => exact Test.require_ok_iff.trans ((Substring.ends_iff _).trans (by rw [folded]; rfl))
  | anywhere => exact Test.require_ok_iff.trans (Substring.contains_iff _)
  | nowhere =>
    refine Test.require_ok_iff.trans ?_
    rw [Bool.not_eq_true', ← Bool.not_eq_true, Substring.contains_iff]
    rfl

theorem check_of_not_text (kept : String) (ignoreCase : Bool) {v : Value}
    (other : v.isString = false) :
    (spot.test kept ignoreCase).check v = .error (.notString v) := by
  cases v with
  | string s => contradiction
  | _ => cases spot <;> rfl

theorem accepted_text_iff (s : String) :
    ((spot.expander log needle flag).answer (.string s)).accepted = true ↔
      spot.Holds (Substring.fold (flag.getD false) needle.toList)
        (Substring.fold (flag.getD false) s.toList) := by
  have check := @check_ok_iff spot
    (.ofList (Substring.fold (flag.getD false) needle.toList)) (flag.getD false) s (by simp)
  rw [String.toList_ofList] at check
  rw [← check, expander, Expander.accepted_test_iff]

theorem answer_of_not_text {v : Value} (other : v.isString = false) :
    ((spot.expander log needle flag).answer v).accepted = false ∧
      ((spot.expander log needle flag).answer v).error = some (Mismatch.notString v).message := by
  exact Expander.answer_test_of_error log (check_of_not_text _ _ other)

/-- It accepts texts alone, those that have the needle there. -/
theorem accepted_iff (v : Value) :
    ((spot.expander log needle flag).answer v).accepted = true ↔ ∃ s, v = .string s ∧
      spot.Holds (Substring.fold (flag.getD false) needle.toList)
        (Substring.fold (flag.getD false) s.toList) := by
  cases text : v.isString with
  | true =>
    cases v with
    | string s => simp [accepted_text_iff]
    | _ => contradiction
  | false =>
    refine iff_of_false (by simp [(answer_of_not_text text).1]) ?_
    rintro ⟨s, rfl, _⟩
    contradiction

/-- What a needle is part of keeps it when both are brought into lower case. -/
theorem Holds.lower {kept text : List Char} (holds : spot.Holds kept text)
    (positive : spot ≠ nowhere) :
    spot.Holds (Substring.lower kept) (Substring.lower text) := by
  cases spot with
  | start => exact List.IsPrefix.map _ holds
  | finish => exact List.IsSuffix.map _ holds
  | anywhere => exact List.IsInfix.map _ holds
  | nowhere => contradiction

theorem Holds.anywhere {kept text : List Char}
    (holds : start.Holds kept text ∨ finish.Holds kept text) : anywhere.Holds kept text :=
  holds.elim List.IsPrefix.isInfix List.IsSuffix.isInfix

end Spot

/-- The same value but for the case of ASCII letters, if it is a text. -/
inductive Value.Recased : Value → Value → Prop
  | text {s t : String} (recased : Substring.Recased s t) : Recased (.string s) (.string t)
  | same (v : Value) : Recased v v

namespace Spot
variable {spot : Spot} {log : LogId} {needle : String} {flag : Option Bool}

theorem accepted_of_recased {needle' : String} (recased : Substring.Recased needle needle')
    {v v' : Value} (same : v.Recased v') :
    ((spot.expander log needle' (some true)).answer v').accepted =
      ((spot.expander log needle (some true)).answer v).accepted := by
  have kept : Substring.fold true needle'.toList = Substring.fold true needle.toList :=
    Substring.lower_of_recased recased
  rw [Bool.eq_iff_iff, accepted_iff, accepted_iff, Option.getD_some, kept]
  cases same with
  | same v => rfl
  | @text s t recased =>
    have text : Substring.fold true t.toList = Substring.fold true s.toList :=
      Substring.lower_of_recased recased
    simp [text]

/-- A run answers as the first does, and reports an outcome. -/
theorem run_expander (memory : Memory) (v : Value) (journal : Journal) :
    ((spot.expander log needle flag).run memory v journal).accepted =
        ((spot.expander log needle flag).answer v).accepted ∧
      ((spot.expander log needle flag).run memory v journal).error =
        ((spot.expander log needle flag).answer v).error ∧
      ∃ stage, Outcome stage ((spot.expander log needle flag).run memory v journal) := by
  exact Expander.run_test log _ memory v journal

end Spot

namespace Registry
variable {registry : Registry}

/-- To cut a text by the number of bytes of a needle finds exactly the texts that begin with it, or
end with it, in lower case; where there is no such cut, the text is refused. -/
theorem folded_ends_exact {first last : String} (starts : registry.StandsFor first .startsWith)
    (finishes : registry.StandsFor last .endsWith) (log : LogId) (p : String) :
    let arguments : List (Argument Node) := [.literal (.string p), .literal (.bool true)]
    ∃ front back : Expander, registry.Makes log ⟨first, arguments⟩ front ∧
      registry.Makes log ⟨last, arguments⟩ back ∧
      ∀ (s : String) (memory : Memory) (journal : Journal),
        let pass := front.run memory (.string s) journal
        let pass' := back.run memory (.string s) journal
        (∃ stage, Outcome stage pass) ∧ (∃ stage, Outcome stage pass') ∧
        (pass.accepted = true ↔ Substring.lower p.toList <+: Substring.lower s.toList) ∧
        (pass'.accepted = true ↔ Substring.lower p.toList <:+ Substring.lower s.toList) ∧
        (¬ String.Pos.Raw.IsValid s ⟨p.utf8ByteSize⟩ → pass.accepted = false) ∧
        (¬ (p.utf8ByteSize ≤ s.utf8ByteSize ∧
            String.Pos.Raw.IsValid s ⟨s.utf8ByteSize - p.utf8ByteSize⟩) →
          pass'.accepted = false) := by
  intro arguments
  refine ⟨_, _, @Spot.makes_expander .start log p (some true) _ _ starts,
    @Spot.makes_expander .finish log p (some true) _ _ finishes, fun s memory journal => ?_⟩
  intro pass pass'
  obtain ⟨accepted, _, reported⟩ :=
    @Spot.run_expander .start log p (some true) memory (.string s) journal
  obtain ⟨accepted', _, reported'⟩ :=
    @Spot.run_expander .finish log p (some true) memory (.string s) journal
  have begins : pass.accepted = true ↔ Substring.lower p.toList <+: Substring.lower s.toList := by
    rw [accepted, Spot.accepted_text_iff]
    rfl
  have ends : pass'.accepted = true ↔ Substring.lower p.toList <:+ Substring.lower s.toList := by
    rw [accepted', Spot.accepted_text_iff]
    rfl
  refine ⟨reported, reported', begins, ends, fun nowhere => ?_, fun nowhere => ?_⟩
  · -- were the needle there, the cut behind it would fall between two characters
    rw [← Bool.not_eq_true, begins]
    exact fun starts => nowhere (Substring.isValid_of_begins starts)
  · rw [← Bool.not_eq_true, ends]
    exact fun finishes => nowhere (Substring.isValid_of_ends finishes)

/-- A needle of one byte: the cut behind it falls into a character of two, and behind that one. -/
theorem folded_ends_exact_of_accent :
    let arguments : List (Argument Node) := [.literal (.string "A"), .literal (.bool true)]
    standard.StandsFor "startsWith" .startsWith ∧ standard.StandsFor "endsWith" .endsWith ∧
      ∃ front back : Expander, standard.Makes 0 ⟨"startsWith", arguments⟩ front ∧
        standard.Makes 0 ⟨"endsWith", arguments⟩ back ∧
        ∀ memory journal, (front.run memory (.string "éa") journal).accepted = false ∧
          (back.run memory (.string "éa") journal).accepted = true := by
  intro arguments
  have starts := @standsFor_standard .startsWith (by decide)
  have finishes := @standsFor_standard .endsWith (by decide)
  obtain ⟨front, back, made, made', exact⟩ := folded_ends_exact starts finishes 0 "A"
  refine ⟨starts, finishes, front, back, made, made', fun memory journal => ?_⟩
  obtain ⟨_, _, begins, ends, _, _⟩ := exact "éa" memory journal
  refine ⟨Bool.not_eq_true _ ▸ mt begins.mp ?_, ends.mpr ?_⟩ <;> decide

/-- The four tests agree about where a needle stands: a text that begins or ends with it holds it;
what is found as written is found without case; to hold it not is to be a text that does not hold
it; and without case, the case of the needle and of the text does not matter. -/
theorem needles_cohere {names : Spot → String}
    (stands : ∀ spot, registry.StandsFor (names spot) spot.kind) (log : LogId) :
    ∃ test : Spot → String → Option Bool → Expander,
      (∀ spot p flag, registry.Makes log ⟨names spot, flagged (.literal (.string p)) flag⟩
        (test spot p flag)) ∧
      (∀ spot p flag v memory journal, let pass := (test spot p flag).run memory v journal
        pass.accepted = ((test spot p flag).answer v).accepted ∧
          pass.error = ((test spot p flag).answer v).error) ∧
      (∀ p flag v, ((test .start p flag).answer v).accepted = true ∨
          ((test .finish p flag).answer v).accepted = true →
        ((test .anywhere p flag).answer v).accepted = true) ∧
      (∀ spot p flag v, spot ≠ .nowhere → flag.getD false = false →
        ((test spot p flag).answer v).accepted = true →
          ((test spot p (some true)).answer v).accepted = true) ∧
      (∀ p flag v, ((test .nowhere p flag).answer v).accepted = true ↔
        v.isString = true ∧ ((test .anywhere p flag).answer v).accepted = false) ∧
      (∀ spot p flag v, v.isString = false → ((test spot p flag).answer v).accepted = false ∧
        ((test spot p flag).answer v).error = some (Mismatch.notString v).message) ∧
      ∀ spot p p' v v', Substring.Recased p p' → v.Recased v' →
        ((test spot p' (some true)).answer v').accepted =
          ((test spot p (some true)).answer v).accepted := by
  refine ⟨fun spot p flag => spot.expander log p flag, ?_, ?_, ?_, ?_, ?_, ?_, ?_⟩
  · exact fun spot p flag => Spot.makes_expander (stands spot)
  · intro spot p flag v memory journal
    obtain ⟨accepted, error, _⟩ := @Spot.run_expander spot log p flag memory v journal
    exact ⟨accepted, error⟩
  · intro p flag v
    simp only [Spot.accepted_iff]
    rintro (⟨s, rfl, starts⟩ | ⟨s, rfl, finishes⟩)
    · exact ⟨s, rfl, Spot.Holds.anywhere (.inl starts)⟩
    · exact ⟨s, rfl, Spot.Holds.anywhere (.inr finishes)⟩
  · intro spot p flag v positive off
    simp only [Spot.accepted_iff, off]
    rintro ⟨s, rfl, holds⟩
    exact ⟨s, rfl, holds.lower positive⟩
  · intro p flag v
    rw [← Bool.not_eq_true, Spot.accepted_iff, Spot.accepted_iff]
    cases v with
    | string s => simp [Spot.Holds, Value.isString]
    | _ => simp [Value.isString]
  · exact fun spot p flag v other => Spot.answer_of_not_text other
  · exact fun spot p p' v v' recased same => Spot.accepted_of_recased recased same

/-- A text that ends with the needle but for case is one that holds it, in another case as well. -/
theorem needles_cohere_of_two_cases :
    let arguments : List (Argument Node) := [.literal (.string "Éa"), .literal (.bool true)]
    (∀ spot : Spot, standard.StandsFor spot.kind.title spot.kind) ∧
      ∃ last part none : Expander, standard.Makes 0 ⟨"endsWith", arguments⟩ last ∧
        standard.Makes 0 ⟨"contains", arguments⟩ part ∧
        standard.Makes 0 ⟨"notContains", arguments⟩ none ∧
        (last.answer (.string "xÉA")).accepted = true ∧
        (part.answer (.string "xÉA")).accepted = true ∧
        (none.answer (.string "Xéa")).accepted = true ∧
        (part.answer (.string "XÉa")).accepted = true := by
  intro arguments
  have stands (spot : Spot) : standard.StandsFor spot.kind.title spot.kind :=
    standsFor_standard (by cases spot <;> decide)
  obtain ⟨test, made, _, inside, _, none, _, recased⟩ := needles_cohere stands 0
  have last : standard.Makes 0 ⟨"endsWith", arguments⟩ (.test 0 (.endsWith "Éa" true)) := by rfl
  have part : standard.Makes 0 ⟨"contains", arguments⟩ (.test 0 (.contains "Éa" true)) := by rfl
  have finish : ((test .finish "Éa" (some true)).answer (.string "xÉA")).accepted = true := by
    rw [last.unique (made .finish "Éa" (some true))]
    decide +kernel
  have anywhere := inside "Éa" (some true) (.string "xÉA") (.inr finish)
  refine ⟨stands, _, _, _, made .finish "Éa" (some true), made .anywhere "Éa" (some true),
    made .nowhere "Éa" (some true), finish, anywhere, ?_, ?_⟩
  · refine (none "Éa" (some true) (.string "Xéa")).mpr ⟨rfl, ?_⟩
    rw [part.unique (made .anywhere "Éa" (some true))]
    decide +kernel
  · have same : Substring.Recased "Éa" "Éa" := List.forall₂_same.mpr fun _ _ => .inl rfl
    have other : Substring.Recased "xÉA" "XÉa" :=
      .cons (.inr (.inr rfl)) (.cons (.inl rfl) (.cons (.inr (.inl rfl)) .nil))
    exact (recased .anywhere "Éa" "Éa" _ _ same (.text other)).trans anywhere

end Registry
end MatchTree
