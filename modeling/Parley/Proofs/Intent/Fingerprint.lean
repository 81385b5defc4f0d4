/-
Module: Parley.Proofs.Intent.Fingerprint
Layer: Proofs
Purpose: Which intents have one fingerprint.  What is digested of an intent does not depend on the
  order in which its fields were declared.  It determines the code, the description and the fields
  as long as no text among them holds the character that separates them; a text that holds it may
  spell parts of another intent.
Main exports: Intent.SameVersion, Intent.Plain, Intent.bytes, Intent.bytes_of_sameVersion,
  Intent.sameVersion_of_bytes, Sha256.hex_inj, Intent.versions_told_apart
-/
import Mathlib.Algebra.Group.Nat.Defs
import Mathlib.Data.List.Nodup
import Parley.Exchange.ResultCache
import Parley.Intent.Toolset

namespace Parley

/-! ### Digests -/

namespace Sha256

theorem digitChar_inj : ∀ m n : Fin 16, Nat.digitChar m = Nat.digitChar n → m = n := by
  decide

/-- A number is known from its hexadecimal digits. -/
theorem eq_of_digits {count m n : Nat} (small : m < 16 ^ count) (smallToo : n < 16 ^ count)
    (same : ∀ place < count, m / 16 ^ place % 16 = n / 16 ^ place % 16) : m = n := by
  induction count generalizing m n with
  | zero => omega
  | succ count ih =>
      have last := same 0 (by omega)
      have others : m / 16 = n / 16 := by
        apply ih
        · rw [Nat.pow_succ] at small
          omega
        · rw [Nat.pow_succ] at smallToo
          omega
        · intro place bound
          have digit := same (place + 1) (by omega)
          rwa [Nat.pow_succ', ← Nat.div_div_eq_div_mul, ← Nat.div_div_eq_div_mul] at digit
      simp only [Nat.pow_zero, Nat.div_one] at last
      omega

/-- A word is known from its digits. -/
theorem hexWord_inj {one two : UInt32} (same : hexWord one = hexWord two) : one = two := by
  apply UInt32.toNat_inj.1
  refine eq_of_digits (show one.toNat < 16 ^ 8 from one.toNat_lt) two.toNat_lt ?_
  intro place bound
  have here := congrArg (·[7 - place]?) same
  simp only [hexWord, List.getElem?_map, List.getElem?_range (show 7 - place < 8 by omega),
    Option.map_some, Option.some.injEq, show 7 - (7 - place) = place by omega] at here
  have equal := digitChar_inj ⟨_, Nat.mod_lt _ (by decide)⟩ ⟨_, Nat.mod_lt _ (by decide)⟩ here
  exact congrArg Fin.val equal

theorem flatMap_hexWord_inj {words others : List UInt32}
    (same : words.flatMap hexWord = others.flatMap hexWord)
    (long : words.length = others.length) : words = others := by
  induction words generalizing others with
  | nil => exact (List.length_eq_zero_iff.1 long.symm).symm
  | cons word words ih =>
      cases others with
      | nil => simp at long
      | cons other others =>
          rw [List.flatMap_cons, List.flatMap_cons] at same
          obtain ⟨first, rest⟩ := List.append_inj same (by simp [hexWord])
          rw [hexWord_inj first, ih rest (Nat.succ.inj long)]

/-- A digest is known from its spelling. -/
theorem hex_inj {one two : State} (same : hex one = hex two) : one = two := by
  rw [hex, hex, String.ofList_inj] at same
  have words := flatMap_hexWord_inj same rfl
  simp only [List.cons.injEq, and_true] at words
  obtain ⟨a, b, c, d, e, f, g, h⟩ := words
  cases one
  cases two
  simp_all

/-- Two messages have different digests unless they are one. -/
def Separates (one two : List UInt8) : Prop :=
  digest one = digest two → one = two

end Sha256

/-! ### Versions -/

variable {η : Type} {one two : Intent η}

namespace Intent

/-- Two intents are one version: they have one code, one description and the same fields, in
whatever order these were declared. -/
structure SameVersion (one two : Intent η) : Prop where
  code : one.code = two.code
  description : one.description = two.description
  fields : ∀ field, field ∈ one.shape.fields ↔ field ∈ two.shape.fields

/-- What separates the parts of what is digested. -/
def separator : Char := '\x00'

/-- No text of the intent holds the separator. -/
structure Plain (intent : Intent η) : Prop where
  code : separator ∉ intent.code.toList
  description : ∀ line ∈ intent.description, separator ∉ line.toList
  keys : ∀ field ∈ intent.shape.fields, separator ∉ field.key.toList
  descriptions : ∀ field ∈ intent.shape.fields, separator ∉ field.description.toList

/-- The bytes that are digested. -/
def bytes (intent : Intent η) : List UInt8 :=
  intent.stream.toUTF8.toList

theorem fingerprint_eq (intent : Intent η) :
    intent.fingerprint = Sha256.hex (Sha256.digest intent.bytes) := rfl

theorem toList_loop (array : ByteArray) (start : Nat) (done : List UInt8) :
    ByteArray.toList.loop array start done = done.reverse ++ array.data.toList.drop start := by
  fun_induction ByteArray.toList.loop array start done with
  | case1 start done bound ih =>
      have inside : start < array.data.toList.length := by simpa using bound
      rw [ih, List.drop_eq_getElem_cons inside]
      simp [ByteArray.get!, bound]
  | case2 start done bound =>
      have outside : array.data.toList.length ≤ start := by simpa using bound
      simp [List.drop_eq_nil_of_le outside]

/-- The bytes are those of a text, and tell it. -/
theorem bytes_eq_iff_stream : one.bytes = two.bytes ↔ one.stream = two.stream := by
  constructor
  · intro same
    rw [bytes, bytes, ByteArray.toList, ByteArray.toList, toList_loop, toList_loop] at same
    simp only [List.reverse_nil, List.nil_append, List.drop_zero] at same
    exact String.toByteArray_inj.1 (ByteArray.ext (Array.toList_inj.1 same))
  · exact fun same => congrArg (·.toUTF8.toList) same

/-! ### Fields in order -/

theorem perm_placeField (field : Field) (fields : List Field) :
    (placeField field fields).Perm (field :: fields) := by
  induction fields with
  | nil => exact .refl _
  | cons other fields ih =>
      rw [placeField]
      split
      · exact .refl _
      · exact (ih.cons other).trans (.swap field other fields)

theorem perm_fieldsByKey (fields : List Field) : (fieldsByKey fields).Perm fields := by
  have folded : ∀ sorted : List Field,
      (fields.foldl (fun sorted field => placeField field sorted) sorted).Perm
        (fields ++ sorted) := by
    induction fields with
    | nil => exact fun sorted => .refl _
    | cons field fields ih =>
        intro sorted
        have placed := (perm_placeField field sorted).append_left fields
        exact ((ih _).trans placed).trans List.perm_middle
  simpa [fieldsByKey] using folded []

/-- The keys do not decrease. -/
def InOrder (fields : List Field) : Prop :=
  fields.Pairwise fun first second => first.key ≤ second.key

theorem InOrder.placeField {fields : List Field} (inOrder : InOrder fields) (field : Field) :
    InOrder (placeField field fields) := by
  induction fields with
  | nil => exact List.pairwise_singleton _ _
  | cons other fields ih =>
      obtain ⟨above, rest⟩ := List.pairwise_cons.1 inOrder
      rw [Intent.placeField]
      split
      · next before =>
          have below := Std.le_of_lt before
          refine List.pairwise_cons.2 ⟨?_, inOrder⟩
          intro later member
          rcases List.mem_cons.1 member with here | there
          · exact here ▸ below
          · exact String.le_trans below (above later there)
      · next notBefore =>
          refine List.pairwise_cons.2 ⟨?_, ih rest⟩
          intro later member
          rcases List.mem_cons.1 ((perm_placeField field fields).mem_iff.1 member) with here | there
          · exact here ▸ String.not_lt.1 notBefore
          · exact above later there

theorem inOrder_fieldsByKey (fields : List Field) : InOrder (fieldsByKey fields) := by
  have folded : ∀ sorted : List Field, InOrder sorted →
      InOrder (fields.foldl (fun sorted field => placeField field sorted) sorted) := by
    induction fields with
    | nil => exact fun _ inOrder => inOrder
    | cons field fields ih => exact fun sorted inOrder => ih _ (inOrder.placeField field)
  exact folded [] .nil

/-- Fields with different keys come into one order, however they were declared. -/
theorem fieldsByKey_congr {fields others : List Field} (distinct : (fields.map (·.key)).Nodup)
    (distinctToo : (others.map (·.key)).Nodup) (same : ∀ field, field ∈ fields ↔ field ∈ others) :
    fieldsByKey fields = fieldsByKey others := by
  have alike : fields.Perm others :=
    (List.perm_ext_iff_of_nodup distinct.of_map distinctToo.of_map).2 same
  have sorted := (perm_fieldsByKey fields).trans (alike.trans (perm_fieldsByKey others).symm)
  apply sorted.eq_of_pairwise ?_ (inOrder_fieldsByKey fields) (inOrder_fieldsByKey others)
  intro field other member otherMember below above
  have isField := (perm_fieldsByKey fields).mem_iff.1 member
  have isOther := (same other).2 ((perm_fieldsByKey others).mem_iff.1 otherMember)
  exact List.inj_on_of_nodup_map distinct isField isOther (String.le_antisymm below above)

/-- The order of declaration leaves no trace in what is digested. -/
theorem bytes_of_sameVersion (distinct : one.shape.keys.Nodup) (distinctToo : two.shape.keys.Nodup)
    (same : one.SameVersion two) : one.bytes = two.bytes := by
  have fields := fieldsByKey_congr distinct distinctToo same.fields
  rw [bytes_eq_iff_stream, stream, stream, same.code, same.description, fields]

/-! ### Parts -/

/-- What is digested of a line of the description, part by part. -/
def lineParts (line : String) : List (List Char) :=
  ["desc".toList, line.toList]

/-- What is digested of a field, part by part. -/
def fieldParts (field : Field) : List (List Char) :=
  ["field".toList, field.key.toList, field.type.name.toList,
    (if field.required then "required" else "optional").toList, field.description.toList]

/-- What is digested of an intent, part by part. -/
def parts (intent : Intent η) : List (List Char) :=
  "code".toList :: intent.code.toList ::
    (intent.description.flatMap lineParts ++ (fieldsByKey intent.shape.fields).flatMap fieldParts)

theorem intercalate_cons (part : List Char) (parts : List (List Char)) :
    [separator].intercalate (part :: parts) = part ++ parts.flatMap (separator :: ·) := by
  induction parts generalizing part with
  | nil => simp
  | cons second parts ih => simp [List.intercalate_cons_cons, ih]

/-- The parts stand one after the other, with separators between them. -/
theorem toList_stream (intent : Intent η) :
    intent.stream.toList = [separator].intercalate intent.parts := by
  have lines : ∀ line, (lineParts line).flatMap (separator :: ·) =
      ("\x00desc\x00" ++ line).toList := by
    intro line
    simp [lineParts, separator]
  have fields : ∀ field, (fieldParts field).flatMap (separator :: ·) =
      (fieldMark field).toList := by
    intro field
    cases required : field.required with
    | true => simp [fieldParts, fieldMark, separator, required]
    | false => simp [fieldParts, fieldMark, separator, required]
  rw [parts, intercalate_cons, List.flatMap_cons, List.flatMap_append, List.flatMap_assoc,
    List.flatMap_assoc]
  simp only [lines, fields]
  simp [stream, separator, String.toList_join, List.flatMap_map]

theorem lineParts_inj {line other : String} (same : lineParts line = lineParts other) :
    line = other := by
  simpa [lineParts, String.toList_inj] using same

theorem fieldParts_inj {field other : Field} (same : fieldParts field = fieldParts other) :
    field = other := by
  simp only [fieldParts, List.cons.injEq, String.toList_inj, true_and, and_true] at same
  obtain ⟨key, type, required, description⟩ := same
  have sameType := FieldType.name_inj type
  have sameRequired : field.required = other.required := by
    revert required
    cases field.required <;> cases other.required <;> decide
  cases field
  cases other
  simp_all

theorem flatMap_fieldParts_inj {fields others : List Field}
    (same : fields.flatMap fieldParts = others.flatMap fieldParts) : fields = others := by
  induction fields generalizing others with
  | nil =>
      cases others with
      | nil => rfl
      | cons other others => simp [fieldParts] at same
  | cons field fields ih =>
      cases others with
      | nil => simp [fieldParts] at same
      | cons other others =>
          rw [List.flatMap_cons, List.flatMap_cons] at same
          obtain ⟨first, rest⟩ := List.append_inj same rfl
          rw [fieldParts_inj first, ih rest]

/-- The first part of a line differs from that of a field, so lines and fields are told apart. -/
theorem flatMap_parts_inj {lines others : List String} {fields fieldsToo : List Field}
    (same : lines.flatMap lineParts ++ fields.flatMap fieldParts =
      others.flatMap lineParts ++ fieldsToo.flatMap fieldParts) :
    lines = others ∧ fields = fieldsToo := by
  induction lines generalizing others with
  | nil =>
      cases others with
      | nil => exact ⟨rfl, flatMap_fieldParts_inj same⟩
      | cons other others =>
          cases fields with
          | nil => simp [lineParts] at same
          | cons field fields => simp [lineParts, fieldParts] at same
  | cons line lines ih =>
      cases others with
      | nil =>
          cases fieldsToo with
          | nil => simp [lineParts] at same
          | cons field fields => simp [lineParts, fieldParts] at same
      | cons other others =>
          rw [List.flatMap_cons, List.flatMap_cons, List.append_assoc, List.append_assoc] at same
          obtain ⟨first, rest⟩ := List.append_inj same rfl
          obtain ⟨sameLines, sameFields⟩ := ih rest
          exact ⟨by rw [lineParts_inj first, sameLines], sameFields⟩

theorem Plain.parts {intent : Intent η} (plain : intent.Plain) :
    ∀ part ∈ intent.parts, separator ∉ part := by
  have lines : ∀ part ∈ intent.description.flatMap lineParts, separator ∉ part := by
    intro part member
    obtain ⟨line, isLine, isPart⟩ := List.mem_flatMap.1 member
    simp only [lineParts, List.mem_cons, List.not_mem_nil, or_false] at isPart
    rcases isPart with rfl | rfl
    · decide
    · exact plain.description line isLine
  have fields : ∀ part ∈ (fieldsByKey intent.shape.fields).flatMap fieldParts,
      separator ∉ part := by
    intro part member
    obtain ⟨field, isPlaced, isPart⟩ := List.mem_flatMap.1 member
    have isField := (perm_fieldsByKey intent.shape.fields).mem_iff.1 isPlaced
    simp only [fieldParts, List.mem_cons, List.not_mem_nil, or_false] at isPart
    rcases isPart with rfl | rfl | rfl | rfl | rfl
    · decide
    · exact plain.keys field isField
    · cases field.type <;> decide
    · cases field.required <;> decide
    · exact plain.descriptions field isField
  have tag : separator ∉ "code".toList := by decide
  rw [Intent.parts]
  exact List.forall_mem_cons.2 ⟨tag, List.forall_mem_cons.2 ⟨plain.code,
    List.forall_mem_append.2 ⟨lines, fields⟩⟩⟩

/-- Without separators in the texts the parts are read off what is digested. -/
theorem sameVersion_of_bytes (plain : one.Plain) (plainToo : two.Plain)
    (same : one.bytes = two.bytes) : one.SameVersion two := by
  have streams := congrArg String.toList (bytes_eq_iff_stream.1 same)
  rw [toList_stream, toList_stream] at streams
  have sameParts : one.parts = two.parts := by
    rw [← List.splitOn_intercalate separator plain.parts (by simp [parts]), streams,
      List.splitOn_intercalate separator plainToo.parts (by simp [parts])]
  simp only [parts, List.cons.injEq, String.toList_inj, true_and] at sameParts
  obtain ⟨code, others⟩ := sameParts
  obtain ⟨description, fields⟩ := flatMap_parts_inj others
  refine ⟨code, description, ?_⟩
  intro field
  rw [← (perm_fieldsByKey one.shape.fields).mem_iff, fields,
    (perm_fieldsByKey two.shape.fields).mem_iff]

end Intent

/-! ### Stored results -/

/-- A result that was stored: for which request, and for which version of its intent. -/
structure StoredResult (η : Type) where
  intent : Intent η
  request : ToolRequest
  result : String

/-- The key under which it was stored. -/
def StoredResult.key (stored : StoredResult η) : CacheKey :=
  .ofRequest stored.request stored.intent.fingerprint

/-- The cache after results were stored one after another. -/
def ResultCache.ofStored (stored : List (StoredResult η)) : ResultCache :=
  stored.foldl (fun cache entry => cache.insert entry.key entry.result) []

/-- What is found was stored under the key. -/
theorem ResultCache.find?_ofStored {stored : List (StoredResult η)} {key : CacheKey}
    {result : String} (found : (ofStored stored).find? key = some result) :
    ∃ entry ∈ stored, entry.key = key ∧ entry.result = result := by
  have folded : ∀ cache : ResultCache,
      (stored.foldl (fun cache entry => cache.insert entry.key entry.result) cache).find? key =
        some result →
      (∃ entry ∈ stored, entry.key = key ∧ entry.result = result) ∨
        cache.find? key = some result := by
    clear found
    induction stored with
    | nil => exact fun cache found => .inr found
    | cons entry stored ih =>
        intro cache found
        rcases ih _ found with ⟨later, member, sameKey, sameResult⟩ | before
        · exact .inl ⟨later, List.mem_cons_of_mem _ member, sameKey, sameResult⟩
        · by_cases here : entry.key = key
          · subst here
            rw [ResultCache.find?_insert_self] at before
            exact .inl ⟨entry, List.mem_cons_self, rfl, Option.some.inj before⟩
          · rw [ResultCache.find?_insert_of_ne _ _ here] at before
            exact .inr before
  rcases folded [] found with stored | before
  · exact stored
  · cases before

namespace Intent

/-- As far as the digest separates the two, a fingerprint is that of one version only. -/
theorem sameVersion_of_fingerprint (plain : one.Plain) (plainToo : two.Plain)
    (separates : Sha256.Separates one.bytes two.bytes)
    (same : one.fingerprint = two.fingerprint) : one.SameVersion two := by
  rw [fingerprint_eq, fingerprint_eq] at same
  exact sameVersion_of_bytes plain plainToo (separates (Sha256.hex_inj same))

/-- The order in which fields were declared leaves no trace in what is digested.  For texts without
separators all else does: what is digested is the same for one version only.  As far as the digest
separates it, so is the fingerprint, and a result that was stored for one version is found for no
other. -/
theorem versions_told_apart (one two : Intent η) (distinct : one.shape.keys.Nodup)
    (distinctToo : two.shape.keys.Nodup) :
    (one.SameVersion two → one.bytes = two.bytes) ∧
      (one.Plain → two.Plain →
        (one.bytes = two.bytes ↔ one.SameVersion two) ∧
          (Sha256.Separates one.bytes two.bytes →
            (one.fingerprint = two.fingerprint ↔ one.SameVersion two))) ∧
      ∀ (stored : List (StoredResult η)) (asked : ToolRequest) (result : String), two.Plain →
        (∀ entry ∈ stored,
          entry.intent.Plain ∧ Sha256.Separates entry.intent.bytes two.bytes) →
        (ResultCache.ofStored stored).find? (.ofRequest asked two.fingerprint) = some result →
        ∃ entry ∈ stored, entry.intent.SameVersion two ∧ entry.request.tool = asked.tool ∧
          entry.request.arguments = asked.arguments ∧ entry.result = result := by
  have digested := bytes_of_sameVersion distinct distinctToo
  refine ⟨digested, ?_, ?_⟩
  · intro plain plainToo
    refine ⟨⟨sameVersion_of_bytes plain plainToo, digested⟩, ?_⟩
    intro separates
    refine ⟨sameVersion_of_fingerprint plain plainToo separates, ?_⟩
    intro same
    rw [fingerprint_eq, fingerprint_eq, digested same]
  · intro stored asked result plain separated found
    obtain ⟨entry, member, sameKey, sameResult⟩ := ResultCache.find?_ofStored found
    simp only [StoredResult.key, CacheKey.ofRequest, CacheKey.mk.injEq] at sameKey
    obtain ⟨tool, arguments, fingerprint⟩ := sameKey
    obtain ⟨entryPlain, separates⟩ := separated entry member
    exact ⟨entry, member, sameVersion_of_fingerprint entryPlain plain separates fingerprint, tool,
      arguments, sameResult⟩

/-! ### Lamps -/

/-- An intent that turns on a lamp. -/
def lamp (description : List String) (fields : List Field) : Intent Unit :=
  { code := "lamp", description := description, shape := ⟨fields⟩, handler := () }

def level : Field := ⟨"at", .integer, false, ""⟩

def room : Field := ⟨"in", .string, true, ""⟩

/-- The request to turn it on. -/
def turnOn : ToolRequest := { id := "1", tool := "lamp", arguments := "" }

theorem plain_lamp {description : List String}
    (plain : ∀ line ∈ description, separator ∉ line.toList) :
    (lamp description [level]).Plain where
  code := show separator ∉ "lamp".toList by decide
  description := plain
  keys := List.forall_mem_singleton.2 (by decide)
  descriptions := List.forall_mem_singleton.2 (by decide)

theorem versions_told_apart_lamps :
    (lamp ["dim"] [level, room]).bytes = (lamp ["dim"] [room, level]).bytes ∧
      (lamp ["dim"] [level]).fingerprint ≠ (lamp ["dim", "lit"] [level]).fingerprint ∧
      (ResultCache.ofStored [⟨lamp ["dim"] [level], turnOn, "on"⟩]).find?
        (.ofRequest turnOn (lamp ["dim", "lit"] [level]).fingerprint) = none := by
  have plain : (lamp ["dim"] [level]).Plain := plain_lamp (by decide)
  have plainToo : (lamp ["dim", "lit"] [level]).Plain := plain_lamp (by decide)
  have apart : ¬(lamp ["dim"] [level]).SameVersion (lamp ["dim", "lit"] [level]) :=
    fun same => absurd same.description (by decide)
  have separates :
      Sha256.Separates (lamp ["dim"] [level]).bytes (lamp ["dim", "lit"] [level]).bytes :=
    fun same => absurd same (by decide +kernel)
  have stored : ∀ entry ∈ [StoredResult.mk (lamp ["dim"] [level]) turnOn "on"],
      entry.intent.Plain ∧
        Sha256.Separates entry.intent.bytes (lamp ["dim", "lit"] [level]).bytes := by
    intro entry member
    rw [List.mem_singleton] at member
    subst member
    exact ⟨plain, separates⟩
  have turned := versions_told_apart (lamp ["dim"] [level, room]) (lamp ["dim"] [room, level])
    (by decide) (by decide)
  have other := versions_told_apart (lamp ["dim"] [level]) (lamp ["dim", "lit"] [level])
    (by decide) (by decide)
  refine ⟨turned.1 ⟨rfl, rfl, fun field => List.Perm.mem_iff (.swap room level [])⟩, ?_, ?_⟩
  · intro same
    exact apart (((other.2.1 plain plainToo).2 separates).1 same)
  · rw [Option.eq_none_iff_forall_ne_some]
    intro result found
    obtain ⟨entry, member, same, -⟩ := other.2.2 _ _ _ plainToo stored found
    rw [List.mem_singleton] at member
    subst member
    exact apart same

/-- An intent whose code spells a line of a description. -/
def spelled : Intent Unit :=
  { lamp [] [] with code := "lamp\x00desc\x00dim" }

/-- A lamp with one line of description that spells two. -/
def joined : Intent Unit :=
  lamp ["dim\x00desc\x00lit"] [level]

/-- A text that holds separators spells the parts of another version: a code that of a description,
and one line that of two.  The result stored for the one version is then found for the other. -/
theorem parts_spelled_in_texts :
    ((lamp ["dim"] []).bytes = spelled.bytes ∧ ¬(lamp ["dim"] []).SameVersion spelled) ∧
      (lamp ["dim", "lit"] [level]).bytes = joined.bytes ∧
        ¬(lamp ["dim", "lit"] [level]).SameVersion joined ∧
        (ResultCache.ofStored [⟨lamp ["dim", "lit"] [level], turnOn, "on"⟩]).find?
          (.ofRequest turnOn joined.fingerprint) = some "on" := by
  have sameBytes : (lamp ["dim"] []).bytes = spelled.bytes := bytes_eq_iff_stream.2 (by decide)
  have sameToo : (lamp ["dim", "lit"] [level]).bytes = joined.bytes :=
    bytes_eq_iff_stream.2 (by decide)
  refine ⟨⟨sameBytes, ?_⟩, sameToo, ?_, ?_⟩
  · exact fun same => absurd same.code (by decide)
  · exact fun same => absurd same.description (by decide)
  · rw [fingerprint_eq, ← sameToo]
    exact ResultCache.find?_insert_self _ _ _

end Intent

end Parley
