import MatchTree.Proofs.Expander.Kind

/-!
The signatures of the kinds: how many arguments each takes, and what at which position.

What can be built is decided by the signature, that is by the literals among the arguments and by
which arguments are nested. What is nested does not matter.
-/

set_option autoImplicit false
namespace MatchTree

/-- What is taken at a position. -/
inductive Slot
  | text
  | flag
  | number
  | size
  | date
  | regex
  | literal
  | tree
  | any
  deriving DecidableEq

namespace Slot
variable {ε ε' : Type}

/-- The literals that are taken. -/
def takes (slot : Slot) (v : Value) : Bool :=
  match slot with
  | text => v.isString
  | flag => v.asBool.isSome
  | number => v.asNumber.isSome
  | size => v.asInt.any (0 ≤ ·)
  | date => (v.asString.bind Moment.read?).isSome
  | regex => v.asString.any fun s => (Regex.compile s).isOk
  | literal | any => true
  | tree => false

/-- Whether what is nested is taken. -/
def nests : Slot → Bool
  | tree | any => true
  | _ => false

def admits (slot : Slot) : Argument ε → Bool
  | .literal v => slot.takes v
  | .nested _ => slot.nests

/-- How an argument that is not admitted is reported: a text that is no regular expression by that
text, and all else as an invalid argument, in the name that is built. -/
def Reports (slot : Slot) (name : String) (argument : Argument ε) (failure : Failure) : Prop :=
  match slot, argument with
  | regex, .literal (.string s) => ∃ reason, failure = .invalidPattern name s reason
  | _, _ => ∃ fault, failure = .invalidArgument name fault

/-- What a reader of one argument makes of it. -/
def Reads {α : Type} (slot : Slot) (name : String) (argument : Argument ε)
    (outcome : Except Failure α) : Prop :=
  match outcome with
  | .ok _ => slot.admits argument = true
  | .error failure => slot.admits argument = false ∧ slot.Reports name argument failure

theorem Reads.andThen {α β : Type} {slot : Slot} {name : String} {argument : Argument ε}
    {outcome : Except Failure α} (reads : slot.Reads name argument outcome) (f : α → β) :
    slot.Reads name argument (outcome >>= fun a => pure (f a)) := by
  cases outcome <;> exact reads

theorem admits_related {R : ε → ε' → Prop} {argument : Argument ε} {argument' : Argument ε'}
    (related : Argument.Related R argument argument') (slot : Slot) :
    slot.admits argument' = slot.admits argument := by
  cases related <;> rfl

theorem reports_related {R : ε → ε' → Prop} {argument : Argument ε} {argument' : Argument ε'}
    (related : Argument.Related R argument argument') {name : String} {failure : Failure}
    (slot : Slot) : slot.Reports name argument' failure ↔ slot.Reports name argument failure := by
  cases related with
  | literal v => cases slot <;> cases v <;> rfl
  | nested _ => cases slot <;> rfl

end Slot

/-- One slot, and flags after it. -/
def Slot.thenFlag (first : Slot) : Nat → Slot
  | 0 => first
  | _ + 1 => flag

/-- Bounds on the number of arguments, and what is taken where. -/
structure Signature where
  least : Nat
  most : Option Nat
  slot : Nat → Slot

namespace Signature
variable {ε ε' : Type}

def Counts (signature : Signature) (count : Nat) : Prop :=
  signature.least ≤ count ∧ ∀ most ∈ signature.most, count ≤ most

/-- The number of arguments is within the bounds, and each is admitted where it stands. -/
def Fits (signature : Signature) (arguments : List (Argument ε)) : Prop :=
  signature.Counts arguments.length ∧ ∀ position argument, arguments[position]? = some argument →
    (signature.slot position).admits argument = true

/-- Why arguments do not fit, as it is reported. Their number goes first, whatever they are. -/
def Rejects (signature : Signature) (name : String) (arguments : List (Argument ε))
    (failure : Failure) : Prop :=
  (¬ signature.Counts arguments.length ∧
    failure = .argumentCount name signature.least signature.most arguments.length) ∨
  (signature.Counts arguments.length ∧ ∃ position argument,
    arguments[position]? = some argument ∧ (signature.slot position).admits argument = false ∧
      (signature.slot position).Reports name argument failure)

/-- Something is built from arguments that fit, and from others why they do not is reported. -/
def Decides {α : Type} (signature : Signature) (name : String) (arguments : List (Argument ε))
    (outcome : Except Failure α) : Prop :=
  match outcome with
  | .ok _ => signature.Fits arguments
  | .error failure => signature.Rejects name arguments failure

variable {signature : Signature} {name : String} {arguments : List (Argument ε)}
  {arguments' : List (Argument ε')} {failure : Failure}

theorem Rejects.not_fits (rejects : signature.Rejects name arguments failure) :
    ¬ signature.Fits arguments := by
  rintro ⟨counts, admitted⟩
  obtain ⟨outside, _⟩ | ⟨_, position, argument, found, refused, _⟩ := rejects
  · exact outside counts
  · exact Bool.false_ne_true (refused.symm.trans (admitted position argument found))

section
variable {R : ε → ε' → Prop} (related : List.Forall₂ (Argument.Related R) arguments arguments')
include related

theorem fits_related : signature.Fits arguments' ↔ signature.Fits arguments := by
  rw [Fits, Fits, related.length_eq]
  refine and_congr_right fun _ => forall_congr' fun position => ?_
  have found := Arguments.related_getElem? related position
  generalize arguments[position]? = here at found
  generalize arguments'[position]? = here' at found
  cases found with
  | none => simp
  | some related => simp [Slot.admits_related related]

theorem Rejects.of_related (rejects : signature.Rejects name arguments' failure) :
    signature.Rejects name arguments failure := by
  rw [Rejects, ← related.length_eq] at rejects
  refine rejects.imp_right fun ⟨counts, position, argument', found', refused, reports⟩ => ?_
  have found := Arguments.related_getElem? related position
  rw [found'] at found
  generalize here : arguments[position]? = argument at found
  cases found with
  | some related =>
    refine ⟨counts, position, _, here, ?_, ?_⟩
    · rw [← Slot.admits_related related, refused]
    · exact (Slot.reports_related related _).mp reports

end

/-! ## Constructors -/

section
variable {α β : Type} {items : List (Argument Expander)}

theorem Decides.map {outcome : Except Failure α} (decides : signature.Decides name arguments outcome)
    (f : α → β) : signature.Decides name arguments (outcome.map f) := by
  cases outcome <;> exact decides

/-- The number of arguments is checked first. -/
theorem decides_counted {rest : Except Failure α}
    (decides : signature.Counts items.length → signature.Decides name items rest) :
    signature.Decides name items
      (Arguments.checkCount ⟨name, items⟩ signature.least signature.most >>= fun _ => rest) := by
  by_cases counts : signature.Counts items.length
  · have passed : Arguments.checkCount ⟨name, items⟩ signature.least signature.most = .ok () :=
      Arguments.checkCount_ok_iff.mpr counts
    rw [passed]
    exact decides counts
  · have failed : Arguments.checkCount ⟨name, items⟩ signature.least signature.most =
        .error (.argumentCount name signature.least signature.most items.length) :=
      Arguments.checkCount_of_outside counts
    rw [failed]
    exact .inl ⟨counts, rfl⟩

theorem fits_single {argument : Argument ε} (counts : signature.Counts 1)
    (admits : (signature.slot 0).admits argument = true) : signature.Fits [argument] := by
  refine ⟨counts, fun position other found => ?_⟩
  cases position with
  | zero => exact Option.some.inj found ▸ admits
  | succ position => simp at found

theorem fits_pair {first second : Argument ε} (counts : signature.Counts 2)
    (admits : (signature.slot 0).admits first = true)
    (admits' : (signature.slot 1).admits second = true) : signature.Fits [first, second] := by
  refine ⟨counts, fun position other found => ?_⟩
  match position with
  | 0 => exact Option.some.inj found ▸ admits
  | 1 => exact Option.some.inj found ▸ admits'
  | position + 2 => simp at found

/-- An argument is read first, and what follows may use that it is admitted. -/
theorem decides_read {first : Except Failure α} {next : α → Except Failure β} (position : Nat)
    {argument : Argument Expander} (counts : signature.Counts items.length)
    (found : items[position]? = some argument)
    (reads : (signature.slot position).Reads name argument first)
    (decides : (signature.slot position).admits argument = true → ∀ a,
      signature.Decides name items (next a)) :
    signature.Decides name items (first >>= next) := by
  cases first with
  | ok a => exact decides reads a
  | error failure => exact .inr ⟨counts, position, argument, found, reads⟩

/-- An argument is read last, so all fit if it is admitted. -/
theorem decides_last {outcome : Except Failure α} (position : Nat) {argument : Argument Expander}
    (counts : signature.Counts items.length) (found : items[position]? = some argument)
    (reads : (signature.slot position).Reads name argument outcome)
    (fits : (signature.slot position).admits argument = true → signature.Fits items) :
    signature.Decides name items outcome := by
  cases outcome with
  | ok a => exact fits reads
  | error failure => exact .inr ⟨counts, position, argument, found, reads⟩

end

end Signature

/-! ## Readers -/

namespace Arguments
variable {name : String} {items : List (Argument Expander)} {position : Nat}

theorem literal_of_literal {v : Value} (found : items[position]? = some (.literal v)) :
    literal ⟨name, items⟩ position = .ok v := by
  rw [literal, found]

theorem literal_of_nested {e : Expander} (found : items[position]? = some (.nested e)) :
    literal ⟨name, items⟩ position = .error (.invalidArgument name (.notLiteral position)) := by
  rw [literal, found]
  rfl

variable {argument : Argument Expander} (found : items[position]? = some argument)
include found

/-- A literal is read first, where nothing nested is taken, and what follows looks at the value. -/
theorem literal_bind_reads {α : Type} {slot : Slot} (nests : slot.nests = false)
    {next : Value → Except Failure α}
    (reads : ∀ v, slot.Reads name (.literal v : Argument Expander) (next v)) :
    slot.Reads name argument (literal ⟨name, items⟩ position >>= next) := by
  cases argument with
  | literal v =>
    rw [literal_of_literal found]
    exact reads v
  | nested e =>
    rw [literal_of_nested found]
    refine ⟨nests, ?_⟩
    cases slot <;> exact ⟨_, rfl⟩

theorem literal_reads : Slot.literal.Reads name argument (literal ⟨name, items⟩ position) := by
  cases argument with
  | literal v =>
    rw [literal_of_literal found]
    rfl
  | nested e =>
    rw [literal_of_nested found]
    exact ⟨rfl, _, rfl⟩

theorem string_reads : Slot.text.Reads name argument (string ⟨name, items⟩ position) := by
  refine literal_bind_reads found rfl fun v => ?_
  cases v with
  | string s => rfl
  | _ => exact ⟨rfl, _, rfl⟩

theorem number_reads : Slot.number.Reads name argument (number ⟨name, items⟩ position) := by
  refine literal_bind_reads found rfl fun v => ?_
  split
  case h_1 x number => exact Option.isSome_of_eq_some number
  case h_2 none => exact ⟨by rw [Slot.admits, Slot.takes, none]; rfl, _, rfl⟩

theorem flag_reads (otherwise : Bool) :
    Slot.flag.Reads name argument (flag ⟨name, items⟩ position otherwise) := by
  obtain ⟨within, _⟩ := List.getElem?_eq_some_iff.mp found
  rw [flag, if_neg (Nat.not_le.mpr within)]
  refine literal_bind_reads found rfl fun v => ?_
  cases v with
  | bool b => rfl
  | _ => exact ⟨rfl, _, rfl⟩

omit found in
theorem first_reads (found : items[0]? = some argument) :
    Slot.any.Reads name argument (first ⟨name, items⟩) := by
  have takes : Slot.any.admits argument = true := by cases argument <;> rfl
  cases items with
  | nil => contradiction
  | cons head rest => exact takes

omit found in
/-- A literal among arguments that are all to be nested. -/
theorem expandersFrom_reads (arguments : Arguments) (start : Nat) :
    ∀ failure, arguments.expandersFrom start items = .error failure →
      ∃ (position : Nat) (argument : Argument Expander), items[position]? = some argument ∧
        Slot.tree.admits argument = false ∧ Slot.tree.Reports arguments.expander argument failure := by
  intro failure failed
  induction items generalizing start with
  | nil => contradiction
  | cons argument rest ih =>
    cases argument with
    | literal v =>
      obtain rfl := Except.error.inj failed
      exact ⟨0, .literal v, rfl, rfl, _, rfl⟩
    | nested e =>
      rw [expandersFrom] at failed
      cases later : arguments.expandersFrom (start + 1) rest with
      | ok others =>
        rw [later] at failed
        contradiction
      | error other =>
        rw [later] at failed
        obtain rfl := Except.error.inj failed
        obtain ⟨position, argument, found, reports⟩ := ih (start + 1) later
        exact ⟨position + 1, argument, found, reports⟩

end Arguments

/-! ## Kinds -/

namespace Kind

def signature : Kind → Signature
  | startsWith | endsWith | contains | notContains => ⟨1, some 2, Slot.text.thenFlag⟩
  | matchRegex => ⟨1, some 1, fun _ => .regex⟩
  | greaterThan | lowerThan => ⟨1, some 1, fun _ => .number⟩
  | inArray => ⟨1, some 1, fun _ => .literal⟩
  | count => ⟨1, some 1, fun _ => .size⟩
  | oneOf => ⟨2, none, fun _ => .tree⟩
  | hasProperty => ⟨1, some 1, fun _ => .text⟩
  | each => ⟨1, some 2, Slot.any.thenFlag⟩
  | structural => ⟨1, some 1, fun _ => .any⟩
  | after | before => ⟨1, some 1, fun _ => .date⟩
  | isEmpty | isNotEmpty | optional | isEmail | isUrl | isIp | isDateTime | isTzOffset
  | isTzAbbreviation | isTzIdentifier => ⟨0, some 0, fun _ => .any⟩
  | record | silent | impostor => ⟨0, none, fun _ => .any⟩

variable {name : String} {items : List (Argument Expander)}

theorem plainTest_decides (test : Test) (slot : Nat → Slot) :
    (Signature.mk 0 (some 0) slot).Decides name items (plainTest test ⟨name, items⟩) := by
  refine @Signature.decides_counted ⟨0, some 0, slot⟩ name _ _ _ fun counts => ⟨counts, ?_⟩
  obtain rfl := List.length_eq_zero_iff.mp (Nat.le_zero.mp (counts.2 0 rfl))
  exact fun _ _ found => nomatch found

theorem decides_single {α : Type} {slot : Slot} {read : Except Failure α}
    (reads : ∀ argument, items[0]? = some argument → slot.Reads name argument read) :
    (Signature.mk 1 (some 1) fun _ => slot).Decides name items
      (Arguments.checkCount ⟨name, items⟩ 1 (some 1) >>= fun _ => read) := by
  refine @Signature.decides_counted ⟨1, some 1, _⟩ name _ _ _ fun counts => ?_
  obtain ⟨argument, rfl⟩ :=
    List.length_eq_one_iff.mp (Nat.le_antisymm (counts.2 1 rfl) counts.1)
  exact Signature.decides_last 0 counts rfl (reads argument rfl) (Signature.fits_single counts)

/-- A flag may follow the one argument, and is read before it. -/
theorem decides_flagged {α : Type} {slot : Slot} {otherwise : Bool} {read : Bool → Except Failure α}
    (reads : ∀ given argument, items[0]? = some argument → slot.Reads name argument (read given)) :
    (Signature.mk 1 (some 2) slot.thenFlag).Decides name items
      (Arguments.checkCount ⟨name, items⟩ 1 (some 2) >>= fun _ =>
        Arguments.flag ⟨name, items⟩ 1 otherwise >>= read) := by
  refine @Signature.decides_counted ⟨1, some 2, _⟩ name _ _ _ fun counts => ?_
  match items with
  | [] => exact absurd counts.1 (Nat.not_succ_le_zero 0)
  | [first] =>
    change Signature.Decides _ _ _ (read otherwise)
    exact Signature.decides_last 0 counts rfl (reads otherwise first rfl)
      (Signature.fits_single counts)
  | [first, second] =>
    refine Signature.decides_read 1 counts rfl (Arguments.flag_reads rfl otherwise)
      fun flag given => ?_
    exact Signature.decides_last 0 counts rfl (reads given first rfl) fun admits =>
      Signature.fits_pair counts admits flag
  | _ :: _ :: _ :: _ => exact absurd (counts.2 2 rfl) (by simp)

theorem needleTest_decides (test : String → Bool → Test) :
    startsWith.signature.Decides name items (needleTest test ⟨name, items⟩) :=
  decides_flagged fun _ _ found => (Arguments.string_reads found).andThen _

theorem numberTest_decides (test : Finite → Test) :
    greaterThan.signature.Decides name items (numberTest test ⟨name, items⟩) :=
  decides_single fun _ found => (Arguments.number_reads found).andThen _

theorem regexTest_decides :
    matchRegex.signature.Decides name items (regexTest ⟨name, items⟩) := by
  refine decides_single fun argument found => ?_
  rw [Arguments.string, bind_assoc]
  refine Arguments.literal_bind_reads found rfl fun v => ?_
  cases v with
  | string s =>
    simp only [Value.asString, bind, Except.bind, pure, Except.pure]
    have takes : Slot.regex.takes (.string s) = (Regex.compile s).isOk := rfl
    cases compiled : Regex.compile s with
    | ok regex => exact takes.trans (by rw [compiled]; rfl)
    | error fault => exact ⟨takes.trans (by rw [compiled]; rfl), _, rfl⟩
  | _ => exact ⟨rfl, _, rfl⟩

theorem countTest_decides :
    count.signature.Decides name items (countTest ⟨name, items⟩) := by
  refine decides_single fun argument found => ?_
  rw [Arguments.int, bind_assoc]
  refine Arguments.literal_bind_reads found rfl fun v => ?_
  cases v with
  | int i =>
    change Slot.Reads _ _ _ (if i < 0 then .error (.invalidArgument name (.negativeCount i))
      else .ok (Test.count i.toInt.toNat))
    split
    case isTrue negative => exact ⟨decide_eq_false (Int64.not_le.mpr negative), _, rfl⟩
    case isFalse proper => exact decide_eq_true (Int64.not_lt.mp proper)
  | _ => exact ⟨rfl, _, rfl⟩

theorem momentTest_decides (test : Moment → Test) :
    after.signature.Decides name items (momentTest test ⟨name, items⟩) := by
  refine decides_single fun argument found => ?_
  rw [Arguments.string, bind_assoc]
  refine Arguments.literal_bind_reads found rfl fun v => ?_
  cases v with
  | string s =>
    simp only [Value.asString, bind, Except.bind, pure, Except.pure]
    have takes : Slot.date.takes (.string s) = (Moment.read? s).isSome := rfl
    cases read : Moment.read? s with
    | some m => exact takes.trans (by rw [read]; rfl)
    | none => exact ⟨takes.trans (by rw [read]; rfl), _, rfl⟩
  | _ => exact ⟨rfl, _, rfl⟩

/-- Whether a kind builds anything, and why not, is decided by its signature. -/
theorem build_decides (kind : Kind) (log : LogId) :
    kind.signature.Decides name items (kind.build ⟨name, items⟩ log) := by
  cases kind with
  | startsWith | endsWith | contains | notContains => exact (needleTest_decides _).map _
  | matchRegex => exact regexTest_decides.map _
  | greaterThan | lowerThan => exact (numberTest_decides _).map _
  | count => exact countTest_decides.map _
  | after | before => exact (momentTest_decides _).map _
  | inArray =>
    exact (decides_single fun _ found => (Arguments.literal_reads found).andThen _).map _
  | hasProperty =>
    exact (decides_single fun _ found => (Arguments.string_reads found).andThen _).map _
  | oneOf =>
    refine @Signature.decides_counted oneOf.signature name _ _ _ fun counts => ?_
    cases nested : Arguments.expanders ⟨name, items⟩ with
    | error failure => exact .inr ⟨counts, Arguments.expandersFrom_reads _ 0 _ nested⟩
    | ok children =>
      obtain rfl := Arguments.expandersFrom_ok_iff.mp nested
      refine ⟨counts, fun position argument found => ?_⟩
      obtain ⟨child, _, rfl⟩ := List.mem_map.mp (List.mem_of_getElem? found)
      rfl
  | each => exact decides_flagged fun _ _ found => (Arguments.first_reads found).andThen _
  | structural => exact decides_single fun _ found => (Arguments.first_reads found).andThen _
  | record | silent | impostor =>
    exact ⟨⟨Nat.zero_le _, nofun⟩, fun _ argument _ => argument.casesOn (fun _ => rfl) fun _ => rfl⟩
  | _ => exact (plainTest_decides _ _).map _

end Kind
end MatchTree
