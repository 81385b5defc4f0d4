/-
Module: Parley.Proofs.Intent.Acceptance
Layer: Proofs
Purpose: Which arguments are accepted for a shape, what is taken of them, and why others are not
  accepted.  What a value stands for at a type is said without the functions that compute it: words
  by their letters, numbers by the rational number they are.
Main exports: IsWordFor, Json.number?, Json.Denotes, FieldType.Holds, FieldType.Takes,
  FieldType.accept?_eq_some_iff, Json.Offers, Field.Suits, Field.Fault, Shape.Fits, Shape.Taken,
  Shape.Rejects, Shape.accept_eq_ok_iff, Shape.accept_eq_error_iff, Shape.accept_judged
-/
import Mathlib.Data.List.DropRight
import Mathlib.Data.List.TakeWhile
import Parley.Intent.Acceptance
import Parley.Proofs.Dictionary
import Parley.Proofs.Json.Written
import Parley.Proofs.Number.Exact

namespace Parley

open Dictionary (find? erase)

/-! ### Words -/

namespace Text

theorem asciiLower_of_isSpace {c : Char} (blank : isSpace c = true) : asciiLower c = c := by
  rw [asciiLower, if_neg]
  rintro ⟨above, below⟩
  have least : 65 ≤ c.toNat := above
  have greatest : c.toNat ≤ 90 := below
  simp only [isSpace, Bool.or_eq_true, Bool.and_eq_true, decide_eq_true_eq, beq_iff_eq] at blank
  omega

/-- White space at the end of a text goes, and nothing else if the text before it has none. -/
theorem trimEnd_append {middle after : List Char} (solid : ∀ c ∈ middle, isSpace c = false)
    (blank : ∀ c ∈ after, isSpace c = true) : trimEnd (middle ++ after) = middle := by
  have blankToo : ∀ c ∈ after.reverse, isSpace c = true :=
    fun c member => blank c (List.mem_reverse.1 member)
  rw [trimEnd, List.reverse_append, List.dropWhile_append_of_pos blankToo]
  cases last : middle.reverse with
  | nil => simpa using last.symm
  | cons c rest =>
      have member : c ∈ middle := List.mem_reverse.1 (last ▸ List.mem_cons_self)
      rw [List.dropWhile_cons_of_neg (by simp [solid c member]), ← last, List.reverse_reverse]

/-- A text without white space is what is left when white space around it is removed. -/
theorem trimChars_append {before middle after : List Char}
    (blank : ∀ c ∈ before, isSpace c = true) (solid : ∀ c ∈ middle, isSpace c = false)
    (blankToo : ∀ c ∈ after, isSpace c = true) :
    trimChars (before ++ middle ++ after) = middle := by
  rw [trimChars, List.append_assoc, List.dropWhile_append_of_pos blank]
  cases middle with
  | nil => simp [List.dropWhile_eq_nil_iff.2 blankToo, trimEnd]
  | cons c middle =>
      have first := solid c List.mem_cons_self
      rw [List.cons_append, List.dropWhile_cons_of_neg (by simp [first]), ← List.cons_append]
      exact trimEnd_append solid blankToo

/-- Only white space is removed, and only at the ends. -/
theorem trimChars_split (text : List Char) :
    ∃ before after, text = before ++ trimChars text ++ after ∧
      (∀ c ∈ before, isSpace c = true) ∧ ∀ c ∈ after, isSpace c = true := by
  refine ⟨text.takeWhile isSpace, (text.dropWhile isSpace).rtakeWhile isSpace, ?_, ?_, ?_⟩
  · have ends : trimChars text ++ (text.dropWhile isSpace).rtakeWhile isSpace =
        text.dropWhile isSpace := List.rdropWhile_append_rtakeWhile ..
    rw [List.append_assoc, ends, List.takeWhile_append_dropWhile]
  · exact fun c member => List.mem_takeWhile_imp member
  · exact fun c member => List.mem_rtakeWhile_imp member

end Text

/-- The words for a truth value, in lower case. -/
def wordsFor : Bool → List String
  | true => ["true", "1", "yes", "y"]
  | false => ["false", "0", "no", "n"]

/-- A word stands for a truth value if it is one of the words for it, white space around it and the
case of its ASCII letters aside. -/
def IsWordFor (word : String) (value : Bool) : Prop :=
  ∃ before middle after, word.toList = before ++ middle ++ after ∧
    (∀ c ∈ before, Text.isSpace c = true) ∧ (∀ c ∈ after, Text.isSpace c = true) ∧
    String.ofList (middle.map asciiLower) ∈ wordsFor value

theorem solid_wordsFor : ∀ value : Bool, ∀ word ∈ wordsFor value, ∀ c ∈ word.toList,
    Text.isSpace c = false := by
  simp [wordsFor, Text.isSpace]

theorem isWordFor_iff (word : String) (value : Bool) :
    IsWordFor word value ↔
      String.ofList ((Text.trimChars word.toList).map asciiLower) ∈ wordsFor value := by
  constructor
  · rintro ⟨before, middle, after, split, blank, blankToo, member⟩
    have solid : ∀ c ∈ middle, Text.isSpace c = false := by
      intro c isMiddle
      cases isSpace : Text.isSpace c with
      | false => rfl
      | true =>
          have inWord : c ∈ (String.ofList (middle.map asciiLower)).toList := by
            rw [String.toList_ofList]
            exact List.mem_map.2 ⟨c, isMiddle, Text.asciiLower_of_isSpace isSpace⟩
          exact isSpace.symm.trans (solid_wordsFor value _ member c inWord)
    rwa [split, Text.trimChars_append blank solid blankToo]
  · intro member
    obtain ⟨before, after, split, blank, blankToo⟩ := Text.trimChars_split word.toList
    exact ⟨before, _, after, split, blank, blankToo, member⟩

theorem truthOfWord?_eq_some_iff (word : String) (value : Bool) :
    truthOfWord? word = some value ↔ IsWordFor word value := by
  have apart : ∀ plain ∈ wordsFor true, plain ∉ wordsFor false := by decide
  have computed : truthOfWord? word =
      if String.ofList ((Text.trimChars word.toList).map asciiLower) ∈ wordsFor true then some true
      else if String.ofList ((Text.trimChars word.toList).map asciiLower) ∈ wordsFor false then
        some false
      else none := by
    simp only [truthOfWord?, List.contains_iff_mem]
    rfl
  rw [isWordFor_iff, computed]
  generalize String.ofList ((Text.trimChars word.toList).map asciiLower) = plain
  by_cases isTrue : plain ∈ wordsFor true
  · cases value with
    | true => simp [isTrue]
    | false => simp [isTrue, apart plain isTrue]
  · cases value with
    | true => simp [isTrue]
    | false => simp [isTrue]

/-! ### What a value stands for -/

/-- The number that a value is, integer or float. -/
def Json.number? : Json → Option ℚ
  | .int n => some n
  | .float x => some x.toRat
  | _ => none

/-- The truth value that a value stands for: its own, that of a word, or that of one or zero. -/
inductive Json.Denotes : Json → Bool → Prop where
  | bool (value : Bool) : Denotes (.bool value) value
  | word {word : String} {value : Bool} : IsWordFor word value → Denotes (.str word) value
  | number {given : Json} {value : Bool} :
      given.number? = some (if value then 1 else 0) → Denotes given value

theorem truthOfNumber?_eq_some_iff (n : Int) (value : Bool) :
    truthOfNumber? n = some value ↔ n = if value then 1 else 0 := by
  rw [truthOfNumber?]
  cases value with
  | true =>
      split
      · simp_all
      · split
        · simp_all
        · simp_all
  | false =>
      split
      · simp_all
      · split
        · simp_all
        · simp_all

theorem Json.truth?_eq_some_iff (given : Json) (value : Bool) :
    given.truth? = some value ↔ given.Denotes value := by
  have asInt : ((if value then 1 else 0 : Int) : ℚ) = if value then 1 else 0 := by
    cases value <;> rfl
  constructor
  · intro found
    cases given with
    | bool own => exact Option.some.inj found ▸ .bool own
    | str word => exact .word ((truthOfWord?_eq_some_iff word value).1 found)
    | int n =>
        rw [(truthOfNumber?_eq_some_iff n value).1 found]
        exact .number (congrArg some asInt)
    | float x =>
        obtain ⟨n, isInt, isTruth⟩ := Option.bind_eq_some_iff.1 found
        rw [truthOfNumber?_eq_some_iff] at isTruth
        rw [Binary64.toInt?_eq_some_iff, isTruth, asInt] at isInt
        exact .number (congrArg some isInt)
    | null => cases found
    | arr items => cases found
    | obj fields => cases found
  · intro denotes
    cases denotes with
    | bool => rfl
    | word isWord => exact (truthOfWord?_eq_some_iff _ value).2 isWord
    | number isTruth =>
        rw [← asInt] at isTruth
        cases given with
        | int n =>
            have same : n = if value then 1 else 0 := Int.cast_injective (Option.some.inj isTruth)
            exact (truthOfNumber?_eq_some_iff n value).2 same
        | float x =>
            have same := (Binary64.toInt?_eq_some_iff x _).2 (Option.some.inj isTruth)
            rw [Json.truth?, same]
            exact (truthOfNumber?_eq_some_iff _ value).2 rfl
        | null => cases isTruth
        | bool own => cases isTruth
        | str word => cases isTruth
        | arr items => cases isTruth
        | obj fields => cases isTruth

/-- A value is of a type.  Integers are those of 64 bits, with a sign or without. -/
inductive FieldType.Holds : FieldType → Json → Prop where
  | string (text : String) : Holds .string (.str text)
  | integer {n : Int} : -2 ^ 63 ≤ n → n < 2 ^ 64 → Holds .integer (.int n)
  | whole (n : Int) : Holds .number (.int n)
  | number (x : Binary64) : Holds .number (.float x)
  | boolean (value : Bool) : Holds .boolean (.bool value)
  | array (items : List Json) : Holds .array (.arr items)
  | object (fields : Json.Object) : Holds .object (.obj fields)

/-- A value can be used at a type, and what is taken of it: the truth value it stands for, the
integer it is, and else the value itself if it is of the type.  A float is an integer only among
those of 64 bits with a sign. -/
inductive FieldType.Takes : FieldType → Json → Json → Prop where
  | boolean {given : Json} {value : Bool} :
      given.Denotes value → Takes .boolean given (.bool value)
  | integer (n : Int) : Takes .integer (.int n) (.int n)
  | integral {x : Binary64} {n : Int} :
      x.toRat = n → -2 ^ 63 ≤ x.toRat → x.toRat < 2 ^ 63 → Takes .integer (.float x) (.int n)
  | same {type : FieldType} {given : Json} :
      type ≠ .boolean → type ≠ .integer → type.Holds given → Takes type given given

theorem Json.integer?_eq_some_iff (given : Json) (n : Int) :
    given.integer? = some n ↔ FieldType.Takes .integer given (.int n) := by
  constructor
  · intro found
    cases given with
    | int m =>
        cases found
        exact .integer n
    | float x =>
        rw [Json.integer?, Option.filter_eq_some_iff, decide_eq_true_eq] at found
        obtain ⟨isInt, least, greatest⟩ := found
        rw [Binary64.toInt?_eq_some_iff] at isInt
        refine .integral isInt ?_ ?_
        · rw [isInt]
          exact_mod_cast least
        · rw [isInt]
          exact_mod_cast greatest
    | null => cases found
    | bool value => cases found
    | str text => cases found
    | arr items => cases found
    | obj fields => cases found
  · intro takes
    cases takes with
    | integer => rfl
    | integral isInt least greatest =>
        rw [isInt] at least greatest
        rw [Json.integer?, Option.filter_eq_some_iff, decide_eq_true_eq,
          Binary64.toInt?_eq_some_iff]
        exact ⟨isInt, by exact_mod_cast least, by exact_mod_cast greatest⟩
    | same _ notInteger => exact absurd rfl notInteger

/-- The kinds of value at which the types other than truth values and integers are usable. -/
theorem FieldType.holds_iff_kind (given : Json) :
    (FieldType.string.Holds given ↔ given.kind = .string) ∧
      (FieldType.number.Holds given ↔ given.kind = .number) ∧
      (FieldType.array.Holds given ↔ given.kind = .array) ∧
      (FieldType.object.Holds given ↔ given.kind = .object) := by
  refine ⟨⟨?_, ?_⟩, ⟨?_, ?_⟩, ⟨?_, ?_⟩, ⟨?_, ?_⟩⟩
  · rintro ⟨⟩
    rfl
  · cases given with
    | str text => exact fun _ => .string text
    | _ => exact fun other => nomatch other
  · rintro (_ | _)
    · rfl
    · rfl
  · cases given with
    | int n => exact fun _ => .whole n
    | float x => exact fun _ => .number x
    | _ => exact fun other => nomatch other
  · rintro ⟨⟩
    rfl
  · cases given with
    | arr items => exact fun _ => .array items
    | _ => exact fun other => nomatch other
  · rintro ⟨⟩
    rfl
  · cases given with
    | obj fields => exact fun _ => .object fields
    | _ => exact fun other => nomatch other

theorem FieldType.takes_iff_holds {type : FieldType} (notBoolean : type ≠ .boolean)
    (notInteger : type ≠ .integer) (given taken : Json) :
    type.Takes given taken ↔ type.Holds given ∧ given = taken := by
  constructor
  · intro takes
    cases takes with
    | boolean => exact absurd rfl notBoolean
    | integer => exact absurd rfl notInteger
    | integral => exact absurd rfl notInteger
    | same _ _ holds => exact ⟨holds, rfl⟩
  · rintro ⟨holds, rfl⟩
    exact .same notBoolean notInteger holds

/-- What is computed of a value at a type is what is taken of it. -/
theorem FieldType.accept?_eq_some_iff (type : FieldType) (given taken : Json) :
    type.accept? given = some taken ↔ type.Takes given taken := by
  have ifKind : ∀ kind, (if given.kind = kind then some given else none) = some taken ↔
      given.kind = kind ∧ given = taken := by
    intro kind
    rw [Option.ite_none_right_eq_some, Option.some.injEq]
  obtain ⟨string, number, array, object⟩ := holds_iff_kind given
  cases type with
  | boolean =>
      constructor
      · intro found
        obtain ⟨value, isTruth, rfl⟩ := Option.map_eq_some_iff.1 found
        exact .boolean ((Json.truth?_eq_some_iff given value).1 isTruth)
      · intro takes
        cases takes with
        | boolean denotes =>
            exact Option.map_eq_some_iff.2 ⟨_, (Json.truth?_eq_some_iff given _).2 denotes, rfl⟩
        | same notBoolean => exact absurd rfl notBoolean
  | integer =>
      constructor
      · intro found
        obtain ⟨n, isInt, rfl⟩ := Option.map_eq_some_iff.1 found
        exact (Json.integer?_eq_some_iff given n).1 isInt
      · intro takes
        have isInt : ∃ n, taken = .int n := by
          cases takes with
          | integer n => exact ⟨n, rfl⟩
          | integral => exact ⟨_, rfl⟩
          | same _ notInteger => exact absurd rfl notInteger
        obtain ⟨n, rfl⟩ := isInt
        exact Option.map_eq_some_iff.2 ⟨n, (Json.integer?_eq_some_iff given n).2 takes, rfl⟩
  | string => rw [takes_iff_holds (by decide) (by decide), string, accept?, ifKind]
  | number => rw [takes_iff_holds (by decide) (by decide), number, accept?, ifKind]
  | array => rw [takes_iff_holds (by decide) (by decide), array, accept?, ifKind]
  | object => rw [takes_iff_holds (by decide) (by decide), object, accept?, ifKind]

/-! ### One field -/

/-- What is there under a key, where null counts as absent. -/
def Json.Offers (given : Json.Object) (key : String) (value : Json) : Prop :=
  find? given key = some value ∧ value ≠ .null

section Fields

variable {intent key : String} {given taken : Json.Object} {field : Field} {fields : List Field}
  {value : Json} {error : CallError}

/-- A field is given as it has to be: it is there if it is required, and what is there is usable. -/
structure Field.Suits (given : Json.Object) (field : Field) : Prop where
  present : field.required = true → ∃ value, Json.Offers given field.key value
  usable : ∀ value, Json.Offers given field.key value → ∃ taken, field.type.Takes value taken

/-- What is wrong with a field, and the error that tells it. -/
inductive Field.Fault (intent : String) (given : Json.Object) (field : Field) :
    CallError → Prop where
  | missing : field.required = true → (∀ value, ¬Json.Offers given field.key value) →
      Fault intent given field
        (.invalidArguments intent ("missing required field \x60" ++ field.key ++ "\x60"))
  | notTruth {value : Json} : field.type = .boolean → Json.Offers given field.key value →
      (∀ taken, ¬field.type.Takes value taken) →
      Fault intent given field
        (.invalidArgumentType intent field.key ("expected a boolean, got " ++ value.render))
  | mistyped {value : Json} : field.type ≠ .boolean → Json.Offers given field.key value →
      (∀ taken, ¬field.type.Takes value taken) →
      Fault intent given field
        (.invalidArguments intent
          ("field \x60" ++ field.key ++ "\x60 must be of type " ++ field.type.name))

theorem Json.Offers.unique {other : Json} (offers : Json.Offers given key value)
    (offersToo : Json.Offers given key other) : value = other :=
  Option.some.inj (offers.1.symm.trans offersToo.1)

/-- Something is there under a key, or nothing but null. -/
theorem Json.offers_or_absent (given : Json.Object) (key : String) :
    (∃ value, Json.Offers given key value) ∨ ∀ value, ¬Json.Offers given key value :=
  (em _).imp_right not_exists.1

theorem Json.offers_erase {other : String} (different : key ≠ other) :
    Json.Offers (erase given key) other value ↔ Json.Offers given other value := by
  rw [Json.Offers, Json.Offers, Dictionary.find?_erase_of_ne given different]

theorem Json.isNull_eq_true_iff (value : Json) : value.isNull = true ↔ value = .null := by
  cases value with
  | null => simp [Json.isNull]
  | _ => simp [Json.isNull]

/-- The value that is looked at for a field. -/
theorem Json.lookup_of_offers (offers : Json.Offers given key value) :
    (find? given key).getD .null = value ∧ value.isNull = false := by
  refine ⟨by rw [offers.1]; rfl, ?_⟩
  rw [← Bool.not_eq_true, Json.isNull_eq_true_iff]
  exact offers.2

theorem Json.lookup_of_absent (absent : ∀ value, ¬Json.Offers given key value) :
    ((find? given key).getD .null).isNull = true := by
  rw [Json.isNull_eq_true_iff]
  cases found : find? given key with
  | none => rfl
  | some value =>
      by_contra notNull
      exact absent value ⟨found, notNull⟩

theorem Field.Fault.not_suits (fault : field.Fault intent given error) : ¬field.Suits given := by
  intro suits
  cases fault with
  | missing required absent =>
      obtain ⟨value, offers⟩ := suits.present required
      exact absent value offers
  | notTruth _ offers unusable =>
      obtain ⟨taken, takes⟩ := suits.usable _ offers
      exact unusable taken takes
  | mistyped _ offers unusable =>
      obtain ⟨taken, takes⟩ := suits.usable _ offers
      exact unusable taken takes

/-- A field is given as it has to be, or something is wrong with it. -/
theorem Field.suits_or_fault (intent : String) (given : Json.Object) (field : Field) :
    field.Suits given ∨ ∃ error, field.Fault intent given error := by
  rcases Json.offers_or_absent given field.key with ⟨value, offers⟩ | absent
  · by_cases usable : ∃ taken, field.type.Takes value taken
    · exact .inl ⟨fun _ => ⟨value, offers⟩, fun other offersToo => offers.unique offersToo ▸ usable⟩
    · have unusable := not_exists.1 usable
      by_cases isBoolean : field.type = .boolean
      · exact .inr ⟨_, .notTruth isBoolean offers unusable⟩
      · exact .inr ⟨_, .mistyped isBoolean offers unusable⟩
  · cases required : field.required with
    | true => exact .inr ⟨_, .missing required absent⟩
    | false =>
        refine .inl ⟨?_, fun value offers => (absent value offers).elim⟩
        rw [required]
        exact fun other => nomatch other

/-! ### One field after another -/

theorem takeFields_of_absent (optional : field.required = false)
    (absent : ∀ value, ¬Json.Offers given field.key value) :
    takeFields intent given taken (field :: fields) =
      takeFields intent (erase given field.key) taken fields := by
  simp [takeFields, Json.lookup_of_absent absent, optional]

theorem takeFields_of_takes {accepted : Json} (offers : Json.Offers given field.key value)
    (takes : field.type.Takes value accepted) :
    takeFields intent given taken (field :: fields) =
      takeFields intent (erase given field.key) (Dictionary.insert field.key accepted taken)
        fields := by
  obtain ⟨isValue, notNull⟩ := Json.lookup_of_offers offers
  rw [takeFields, isValue, notNull, (field.type.accept?_eq_some_iff value accepted).2 takes]
  rfl

/-- At a field that is not as it has to be, its error ends all. -/
theorem takeFields_of_fault (fault : field.Fault intent given error) :
    takeFields intent given taken (field :: fields) = .error error := by
  cases fault with
  | missing required absent =>
      simp [takeFields, Json.lookup_of_absent absent, required, Field.missing]
  | notTruth isBoolean offers unusable =>
      obtain ⟨isValue, notNull⟩ := Json.lookup_of_offers offers
      have refused := Option.eq_none_iff_forall_ne_some.2 fun taken found =>
        unusable taken ((field.type.accept?_eq_some_iff _ taken).1 found)
      rw [takeFields, isValue, notNull, refused]
      simp [Field.refusal, isBoolean]
  | mistyped notBoolean offers unusable =>
      obtain ⟨isValue, notNull⟩ := Json.lookup_of_offers offers
      have refused := Option.eq_none_iff_forall_ne_some.2 fun taken found =>
        unusable taken ((field.type.accept?_eq_some_iff _ taken).1 found)
      rw [takeFields, isValue, notNull, refused]
      simp [Field.refusal]

/-! A field that was looked at is taken out of what is given; for the fields with other keys that
changes nothing. -/

theorem Field.suits_erase (different : key ≠ field.key) :
    field.Suits (erase given key) ↔ field.Suits given := by
  have same : ∀ value, Json.Offers (erase given key) field.key value ↔
      Json.Offers given field.key value := fun _ => Json.offers_erase different
  constructor
  · rintro ⟨present, usable⟩
    simp only [same] at present usable
    exact ⟨present, usable⟩
  · rintro ⟨present, usable⟩
    simp only [← same] at present usable
    exact ⟨present, usable⟩

theorem Field.Fault.erase (different : key ≠ field.key) (fault : field.Fault intent given error) :
    field.Fault intent (erase given key) error := by
  cases fault with
  | missing required absent =>
      exact .missing required fun value offers =>
        absent value ((Json.offers_erase different).1 offers)
  | notTruth isBoolean offers unusable =>
      exact .notTruth isBoolean ((Json.offers_erase different).2 offers) unusable
  | mistyped notBoolean offers unusable =>
      exact .mistyped notBoolean ((Json.offers_erase different).2 offers) unusable

/-- A table after fields were taken: what is taken of the fields that are there, and else what was
in the table before. -/
structure TakenOnto (fields : List Field) (given before after : Json.Object) : Prop where
  sorted : Dictionary.Sorted after
  entries : ∀ field ∈ fields, ∀ value, Json.Offers given field.key value →
    ∃ accepted, find? after field.key = some accepted ∧ field.type.Takes value accepted
  others : ∀ key, (∀ field ∈ fields, field.key = key → ∀ value, ¬Json.Offers given key value) →
    find? after key = find? before key

/-- Where all fields are as they have to be, all that are there are taken. -/
theorem takeFields_of_suits (intent : String) (sorted : Dictionary.Sorted taken)
    (distinct : (fields.map (·.key)).Nodup) (suits : ∀ field ∈ fields, field.Suits given) :
    ∃ result, takeFields intent given taken fields = .ok result ∧
      TakenOnto fields given taken result := by
  induction fields generalizing given taken with
  | nil => exact ⟨taken, rfl, sorted, by simp, by simp⟩
  | cons field fields ih =>
      obtain ⟨fresh, distinctRest⟩ := List.nodup_cons.1 distinct
      have different : ∀ other ∈ fields, field.key ≠ other.key := fun other member same =>
        fresh (List.mem_map.2 ⟨other, member, same.symm⟩)
      obtain ⟨fits, suitsRest⟩ := List.forall_mem_cons.1 suits
      have suitsErased : ∀ other ∈ fields, other.Suits (erase given field.key) :=
        fun other member => (Field.suits_erase (different other member)).2 (suitsRest other member)
      have offersErased : ∀ other ∈ fields, ∀ value,
          Json.Offers (erase given field.key) other.key value ↔ Json.Offers given other.key value :=
        fun other member _ => Json.offers_erase (different other member)
      -- What the rest takes and leaves is told by what was given before the field was taken out.
      have restOthers : ∀ {start result : Json.Object},
          TakenOnto fields (erase given field.key) start result → ∀ key,
          (∀ other ∈ fields, other.key = key → ∀ value, ¬Json.Offers given key value) →
          find? result key = find? start key := by
        intro start result onto key absent
        refine onto.others key fun other member isKey value offers => ?_
        subst isKey
        exact absent other member rfl value ((offersErased other member value).1 offers)
      rcases Json.offers_or_absent given field.key with ⟨value, offers⟩ | absent
      · obtain ⟨accepted, takes⟩ := fits.usable value offers
        obtain ⟨result, took, onto⟩ :=
          ih (sorted.insert field.key accepted) distinctRest suitsErased
        refine ⟨result, (takeFields_of_takes offers takes).trans took, onto.sorted, ?_, ?_⟩
        · refine List.forall_mem_cons.2 ⟨fun other offersToo => ?_,
            fun other member value offersToo =>
              onto.entries other member value ((offersErased other member value).2 offersToo)⟩
          refine ⟨accepted, ?_, offers.unique offersToo ▸ takes⟩
          have kept := restOthers onto field.key fun other member same =>
            absurd same.symm (different other member)
          rw [kept, Dictionary.find?_insert_self]
        · intro key absent
          obtain ⟨absentHere, absentRest⟩ := List.forall_mem_cons.1 absent
          have notHere : field.key ≠ key := fun same => absentHere same value (same ▸ offers)
          rw [restOthers onto key absentRest, Dictionary.find?_insert_of_ne _ _ notHere]
      · have optional : field.required = false := by
          rw [← Bool.not_eq_true]
          intro required
          obtain ⟨value, offers⟩ := fits.present required
          exact absent value offers
        obtain ⟨result, took, onto⟩ := ih sorted distinctRest suitsErased
        refine ⟨result, (takeFields_of_absent optional absent).trans took, onto.sorted, ?_, ?_⟩
        · exact List.forall_mem_cons.2 ⟨fun value offers => (absent value offers).elim,
            fun other member value offers =>
              onto.entries other member value ((offersErased other member value).2 offers)⟩
        · exact fun key absentToo => restOthers onto key (List.forall_mem_cons.1 absentToo).2

/-- The first field that is not as it has to be ends all with its error. -/
theorem takeFields_of_firstFault {before after : List Field}
    (distinct : ((before ++ field :: after).map (·.key)).Nodup)
    (suits : ∀ earlier ∈ before, earlier.Suits given) (fault : field.Fault intent given error) :
    takeFields intent given taken (before ++ field :: after) = .error error := by
  induction before generalizing given taken with
  | nil => exact takeFields_of_fault fault
  | cons first before ih =>
      obtain ⟨fresh, distinctRest⟩ := List.nodup_cons.1 distinct
      have different : ∀ other ∈ before ++ field :: after, first.key ≠ other.key :=
        fun other member same => fresh (List.mem_map.2 ⟨other, member, same.symm⟩)
      obtain ⟨fits, suitsRest⟩ := List.forall_mem_cons.1 suits
      have suitsErased : ∀ earlier ∈ before, earlier.Suits (erase given first.key) :=
        fun earlier member => (Field.suits_erase
          (different earlier (List.mem_append_left _ member))).2 (suitsRest earlier member)
      have faultErased := fault.erase (different field (by simp))
      rcases Json.offers_or_absent given first.key with ⟨value, offers⟩ | absent
      · obtain ⟨accepted, takes⟩ := fits.usable value offers
        exact (takeFields_of_takes offers takes).trans (ih distinctRest suitsErased faultErased)
      · have optional : first.required = false := by
          rw [← Bool.not_eq_true]
          intro required
          obtain ⟨value, offers⟩ := fits.present required
          exact absent value offers
        exact (takeFields_of_absent optional absent).trans
          (ih distinctRest suitsErased faultErased)

end Fields

/-! ### Whole shapes -/

namespace Shape

variable {details : String → String} {shape : Shape} {intent arguments : String}
  {given taken : Json.Object} {error : CallError}

/-- Every declared field is given as it has to be. -/
def Fits (shape : Shape) (given : Json.Object) : Prop :=
  ∀ field ∈ shape.fields, field.Suits given

/-- What is taken of an object: what is taken of each declared field that is there, and nothing
else. -/
structure Taken (shape : Shape) (given taken : Json.Object) : Prop where
  sorted : Dictionary.Sorted taken
  keys : ∀ key, key ∈ Dictionary.keys taken ↔
    key ∈ shape.keys ∧ ∃ value, Json.Offers given key value
  entries : ∀ field ∈ shape.fields, ∀ value, Json.Offers given field.key value →
    ∃ accepted, find? taken field.key = some accepted ∧ field.type.Takes value accepted

/-- The first field in order of declaration that is not given as it has to be, and its error. -/
def FirstFault (shape : Shape) (intent : String) (given : Json.Object) (field : Field)
    (error : CallError) : Prop :=
  ∃ before after, shape.fields = before ++ field :: after ∧
    (∀ earlier ∈ before, earlier.Suits given) ∧ field.Fault intent given error

/-- Why arguments are not accepted. -/
inductive Rejects (details : String → String) (shape : Shape) (intent arguments : String) :
    CallError → Prop where
  | malformed : Json.parse? arguments = none →
      Rejects details shape intent arguments
        (.invalidArguments intent ("arguments are not valid JSON: " ++ details arguments))
  | notObject {other : Json} : Json.parse? arguments = some other → other.kind ≠ .object →
      Rejects details shape intent arguments
        (.invalidArgumentFormat intent ("got " ++ other.kind.withArticle))
  | field {given : Json.Object} {field : Field} {error : CallError} :
      Json.parse? arguments = some (.obj given) → shape.FirstFault intent given field error →
      Rejects details shape intent arguments error

/-- All fields of an object are as they have to be, or there is a first one that is not. -/
theorem fits_or_firstFault (shape : Shape) (intent : String) (given : Json.Object) :
    shape.Fits given ∨ ∃ field error, shape.FirstFault intent given field error := by
  suffices either : ∀ fields : List Field, (∀ field ∈ fields, field.Suits given) ∨
      ∃ field error before after, fields = before ++ field :: after ∧
        (∀ earlier ∈ before, earlier.Suits given) ∧ field.Fault intent given error from
    either shape.fields
  intro fields
  induction fields with
  | nil => exact .inl (by simp)
  | cons first fields ih =>
      rcases first.suits_or_fault intent given with suits | ⟨error, fault⟩
      · rcases ih with all | ⟨field, error, before, after, rfl, earlier, fault⟩
        · exact .inl (List.forall_mem_cons.2 ⟨suits, all⟩)
        · exact .inr ⟨field, error, first :: before, after, rfl,
            List.forall_mem_cons.2 ⟨suits, earlier⟩, fault⟩
      · exact .inr ⟨first, error, [], fields, rfl, by simp, fault⟩

theorem accept_of_fits (details : String → String) (intent : String) (distinct : shape.keys.Nodup)
    (parsed : Json.parse? arguments = some (.obj given)) (fits : shape.Fits given) :
    ∃ taken, shape.accept details intent arguments = .ok taken ∧ shape.Taken given taken := by
  obtain ⟨taken, took, onto⟩ := takeFields_of_suits intent List.Pairwise.nil distinct fits
  refine ⟨taken, by rw [accept, parsed]; exact took, onto.sorted, fun key => ?_, onto.entries⟩
  rw [Dictionary.mem_keys_iff]
  constructor
  · intro found
    by_contra missing
    refine found (onto.others key fun field member isKey value offers => missing ?_)
    exact ⟨isKey ▸ List.mem_map_of_mem member, value, offers⟩
  · rintro ⟨declared, value, offers⟩
    obtain ⟨field, member, rfl⟩ := List.mem_map.1 declared
    obtain ⟨accepted, found, -⟩ := onto.entries field member value offers
    rw [found]
    exact Option.some_ne_none accepted

theorem accept_of_rejects (distinct : shape.keys.Nodup)
    (rejects : shape.Rejects details intent arguments error) :
    shape.accept details intent arguments = .error error := by
  cases rejects with
  | malformed parsed => rw [accept, parsed]
  | notObject parsed notObject =>
      rw [accept, parsed]
      split
      · contradiction
      · next isObject =>
          cases isObject
          exact absurd rfl notObject
      · next same => rw [Option.some.inj same]
  | field parsed first =>
      obtain ⟨before, after, split, suits, fault⟩ := first
      rw [accept, parsed]
      rw [keys, split] at distinct
      exact split ▸ takeFields_of_firstFault distinct suits fault

/-- Arguments are accepted, or there is a cause to reject them. -/
theorem fits_or_rejects (details : String → String) (shape : Shape)
    (intent arguments : String) :
    (∃ given, Json.parse? arguments = some (.obj given) ∧ shape.Fits given) ∨
      ∃ error, shape.Rejects details intent arguments error := by
  cases parsed : Json.parse? arguments with
  | none => exact .inr ⟨_, .malformed parsed⟩
  | some value =>
      by_cases isObject : value.kind = .object
      · obtain ⟨given, rfl⟩ : ∃ given, value = .obj given := by
          cases value with
          | obj given => exact ⟨given, rfl⟩
          | _ => nomatch isObject
        rcases shape.fits_or_firstFault intent given with fits | ⟨field, error, first⟩
        · exact .inl ⟨given, rfl, fits⟩
        · exact .inr ⟨error, .field parsed first⟩
      · exact .inr ⟨_, .notObject parsed isObject⟩

theorem Taken.unique {other : Json.Object} (took : shape.Taken given taken)
    (tookToo : shape.Taken given other) : taken = other := by
  refine Dictionary.Sorted.ext took.sorted tookToo.sorted fun key => ?_
  by_cases member : key ∈ Dictionary.keys taken
  · obtain ⟨declared, value, offers⟩ := (took.keys key).1 member
    obtain ⟨field, isField, rfl⟩ := List.mem_map.1 declared
    obtain ⟨accepted, found, takes⟩ := took.entries field isField value offers
    obtain ⟨acceptedToo, foundToo, takesToo⟩ := tookToo.entries field isField value offers
    rw [← FieldType.accept?_eq_some_iff] at takes takesToo
    rw [found, foundToo, Option.some.inj (takes.symm.trans takesToo)]
  · have memberToo : key ∉ Dictionary.keys other := fun isKey =>
      member ((took.keys key).2 ((tookToo.keys key).1 isKey))
    rw [Dictionary.mem_keys_iff, not_not] at member memberToo
    rw [member, memberToo]

/-- Arguments are accepted if they are an object whose fields are as they have to be, and then what
they give for the declared fields is taken. -/
theorem accept_eq_ok_iff (distinct : shape.keys.Nodup) :
    shape.accept details intent arguments = .ok taken ↔
      ∃ given, Json.parse? arguments = some (.obj given) ∧ shape.Fits given ∧
        shape.Taken given taken := by
  constructor
  · intro accepted
    rcases shape.fits_or_rejects details intent arguments with
      ⟨given, parsed, fits⟩ | ⟨error, rejects⟩
    · obtain ⟨other, acceptedToo, took⟩ := accept_of_fits details intent distinct parsed fits
      cases accepted.symm.trans acceptedToo
      exact ⟨given, parsed, fits, took⟩
    · cases accepted.symm.trans (accept_of_rejects distinct rejects)
  · rintro ⟨given, parsed, fits, took⟩
    obtain ⟨other, accepted, tookToo⟩ := accept_of_fits details intent distinct parsed fits
    rw [accepted, took.unique tookToo]

/-- Arguments are not accepted for the cause there is to reject them. -/
theorem accept_eq_error_iff (distinct : shape.keys.Nodup) :
    shape.accept details intent arguments = .error error ↔
      shape.Rejects details intent arguments error := by
  refine ⟨fun refused => ?_, accept_of_rejects distinct⟩
  rcases shape.fits_or_rejects details intent arguments with
    ⟨given, parsed, fits⟩ | ⟨other, rejects⟩
  · obtain ⟨taken, accepted, -⟩ := accept_of_fits details intent distinct parsed fits
    cases refused.symm.trans accepted
  · cases refused.symm.trans (accept_of_rejects distinct rejects)
    exact rejects

/-- The first field in order of declaration that is not given as it has to be. -/
def FirstFailing (shape : Shape) (given : Json.Object) (field : Field) : Prop :=
  ∃ before after, shape.fields = before ++ field :: after ∧
    (∀ earlier ∈ before, earlier.Suits given) ∧ ¬field.Suits given

theorem FirstFault.failing {field : Field} (first : shape.FirstFault intent given field error) :
    shape.FirstFailing given field := by
  obtain ⟨before, after, split, suits, fault⟩ := first
  exact ⟨before, after, split, suits, fault.not_suits⟩

theorem FirstFailing.fault {field : Field} (first : shape.FirstFailing given field)
    (fault : field.Fault intent given error) : shape.FirstFault intent given field error := by
  obtain ⟨before, after, split, suits, -⟩ := first
  exact ⟨before, after, split, suits, fault⟩

theorem FirstFailing.has_fault {field : Field} (first : shape.FirstFailing given field)
    (intent : String) :
    ∃ error, field.Fault intent given error := by
  obtain ⟨_, _, _, _, failing⟩ := first
  exact (field.suits_or_fault intent given).resolve_left failing

/-- Every cause to reject arguments is one that the model may correct. -/
theorem Rejects.recoverable (rejects : shape.Rejects details intent arguments error) :
    error.isRecoverable = true ∧ error.intent = intent := by
  cases rejects with
  | malformed => exact ⟨rfl, rfl⟩
  | notObject => exact ⟨rfl, rfl⟩
  | field _ first =>
      obtain ⟨_, _, _, _, fault⟩ := first
      cases fault with
      | missing => exact ⟨rfl, rfl⟩
      | notTruth => exact ⟨rfl, rfl⟩
      | mistyped => exact ⟨rfl, rfl⟩

/-- The judgement on written arguments: when they are accepted and what is then taken, and which
error tells what is wrong with them else. -/
structure Judged (details : String → String) (shape : Shape) (intent arguments : String) :
    Prop where
  accepted : (∃ taken, shape.accept details intent arguments = .ok taken) ↔
    ∃ given, Json.parse? arguments = some (.obj given) ∧ shape.Fits given
  taken : ∀ taken, shape.accept details intent arguments = .ok taken →
    ∃ given, Json.parse? arguments = some (.obj given) ∧ shape.Taken given taken
  recoverable : ∀ error, shape.accept details intent arguments = .error error →
    error.isRecoverable = true ∧ error.intent = intent
  format :
    (∃ text,
      shape.accept details intent arguments = .error (.invalidArgumentFormat intent text)) ↔
    ∃ value, Json.parse? arguments = some value ∧ value.kind ≠ .object
  type : ∀ key,
    (∃ text, shape.accept details intent arguments = .error (.invalidArgumentType intent key text)) ↔
      ∃ given field value, Json.parse? arguments = some (.obj given) ∧
        shape.FirstFailing given field ∧ field.key = key ∧ field.type = .boolean ∧
        Json.Offers given key value ∧ ∀ truth, ¬value.Denotes truth
  others : (∃ text, shape.accept details intent arguments = .error (.invalidArguments intent text)) ↔
    Json.parse? arguments = none ∨
      ∃ given field, Json.parse? arguments = some (.obj given) ∧ shape.FirstFailing given field ∧
        (field.type = .boolean → ∀ value, ¬Json.Offers given field.key value)

/-- Whatever the arguments are, they are judged field by field in order of declaration. -/
theorem accept_judged (details : String → String) (shape : Shape) (distinct : shape.keys.Nodup)
    (intent arguments : String) :
    shape.Judged details intent arguments where
  accepted := by
    constructor
    · rintro ⟨taken, accepted⟩
      obtain ⟨given, parsed, fits, -⟩ := (accept_eq_ok_iff distinct).1 accepted
      exact ⟨given, parsed, fits⟩
    · rintro ⟨given, parsed, fits⟩
      obtain ⟨taken, accepted, -⟩ := accept_of_fits details intent distinct parsed fits
      exact ⟨taken, accepted⟩
  taken := by
    intro taken accepted
    obtain ⟨given, parsed, -, took⟩ := (accept_eq_ok_iff distinct).1 accepted
    exact ⟨given, parsed, took⟩
  recoverable := by
    intro error refused
    rw [accept_eq_error_iff distinct] at refused
    exact refused.recoverable
  format := by
    simp only [accept_eq_error_iff distinct]
    constructor
    · rintro ⟨text, rejects⟩
      cases rejects with
      | notObject parsed notObject => exact ⟨_, parsed, notObject⟩
      | field _ first =>
          obtain ⟨_, _, _, _, fault⟩ := first
          cases fault
    · rintro ⟨value, parsed, notObject⟩
      exact ⟨_, .notObject parsed notObject⟩
  type := by
    intro key
    simp only [accept_eq_error_iff distinct]
    constructor
    · rintro ⟨text, rejects⟩
      cases rejects with
      | @field given field _ parsed first =>
          have failing := first.failing
          obtain ⟨_, _, _, _, fault⟩ := first
          cases fault with
          | @notTruth value isBoolean offers unusable =>
              refine ⟨given, field, value, parsed, failing, rfl, isBoolean, offers, ?_⟩
              intro truth denotes
              have takes : field.type.Takes value (.bool truth) := by
                rw [isBoolean]
                exact .boolean denotes
              exact unusable _ takes
    · rintro ⟨given, field, value, parsed, failing, rfl, isBoolean, offers, unusable⟩
      refine ⟨_, .field parsed (failing.fault (.notTruth isBoolean offers fun taken takes => ?_))⟩
      rw [isBoolean] at takes
      cases takes with
      | boolean denotes => exact unusable _ denotes
      | same notBoolean => exact absurd rfl notBoolean
  others := by
    simp only [accept_eq_error_iff distinct]
    constructor
    · rintro ⟨text, rejects⟩
      cases rejects with
      | malformed parsed => exact .inl parsed
      | @field given field _ parsed first =>
          have failing := first.failing
          obtain ⟨_, _, _, _, fault⟩ := first
          cases fault with
          | missing _ absent => exact .inr ⟨given, field, parsed, failing, fun _ => absent⟩
          | mistyped notBoolean =>
              exact .inr ⟨given, field, parsed, failing, fun same => absurd same notBoolean⟩
    · rintro (parsed | ⟨given, field, parsed, failing, notUnusable⟩)
      · exact ⟨_, .malformed parsed⟩
      · obtain ⟨error, fault⟩ := failing.has_fault intent
        have rejects : shape.Rejects details intent arguments error :=
          .field parsed (failing.fault fault)
        cases fault with
        | missing => exact ⟨_, rejects⟩
        | mistyped => exact ⟨_, rejects⟩
        | notTruth isBoolean offers => exact absurd offers (notUnusable isBoolean _)

/-- A booking, perhaps with a confirmation and a number of seats. -/
def booking : Shape :=
  ofFields [⟨"bookingRef", .string, true, ""⟩, ⟨"confirm", .boolean, false, ""⟩,
    ⟨"seats", .integer, false, ""⟩]

/-- A confirmation as a word, a number of seats as a float, and a field that is not declared. -/
def bookingArguments : String :=
  "\x7b\"bookingRef\":\"X1\",\"confirm\":\" YES \",\"seats\":3.0,\"note\":null\x7d"

theorem accept_bookingArguments :
    booking.accept id "booking" bookingArguments =
      .ok [("bookingRef", .str "X1"), ("confirm", .bool true), ("seats", .int 3)] := by
  have words : Json.Token.ofChars? bookingArguments.toList =
      some [.braceOpen, .text (some "bookingRef"), .colon, .text (some "X1"), .comma,
        .text (some "confirm"), .colon, .text (some " YES "), .comma, .text (some "seats"), .colon,
        .number (some (.float ⟨false, 3 * 2 ^ 51, -51, by decide⟩)), .comma, .text (some "note"),
        .colon, .null, .braceClose] := by
    decide +kernel
  rw [accept, Json.parse?, Json.Document.parse?, words]
  rfl

theorem accept_judged_booking :
    booking.keys.Nodup ∧ booking.Judged id "booking" bookingArguments ∧
      booking.accept id "booking" bookingArguments =
        .ok [("bookingRef", .str "X1"), ("confirm", .bool true), ("seats", .int 3)] := by
  have distinct : booking.keys.Nodup := by decide
  have judged := accept_judged id booking distinct "booking" bookingArguments
  exact ⟨distinct, judged, accept_bookingArguments⟩

end Shape

end Parley
