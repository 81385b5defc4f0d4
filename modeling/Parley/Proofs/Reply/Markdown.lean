/-
Module: Parley.Proofs.Reply.Markdown
Layer: Proofs
Purpose: Which answers count as Markdown: those with a mark at the start of a line, behind up to
  three white-space characters, and those with emphasis, a link or a code span anywhere.  The
  scanners take as much as they can, white space before a mark and characters within one; nothing is
  missed by this, since no mark starts with white space and what ends a stretch cannot belong to it.
Main exports: Markdown.LineMark, Markdown.Span, Markdown.HasMark, Markdown.markPattern,
  Markdown.lineMark_iff, Markdown.hasMark_iff, Markdown.found_markPattern_iff
-/
import Parley.Proofs.Text.Pattern
import Parley.Reply.Markdown

namespace Parley.Markdown

/-! ### Marks -/

/-- The marks a line may start with. -/
inductive LineMark : List Char → Prop where
  /-- One to six number signs and white space. -/
  | heading {signs : List Char} {space : Char} (nonempty : signs ≠ []) (few : signs.length ≤ 6)
      (all : ∀ c ∈ signs, c = '#') (isSpace : Text.isSpace space = true) :
      LineMark (signs ++ [space])
  /-- A hyphen, star or plus and white space. -/
  | bullet {c space : Char} (isBullet : c = '-' ∨ c = '*' ∨ c = '+')
      (isSpace : Text.isSpace space = true) : LineMark [c, space]
  /-- Decimal digits, a full stop and white space. -/
  | enumeration {digits : List Char} {space : Char} (nonempty : digits ≠ [])
      (all : ∀ c ∈ digits, Text.isDecimalDigit c = true) (isSpace : Text.isSpace space = true) :
      LineMark (digits ++ ['.', space])
  /-- A closing bracket and white space. -/
  | quotation {space : Char} (isSpace : Text.isSpace space = true) : LineMark ['>', space]
  /-- Three backquotes. -/
  | fence : LineMark [backquote, backquote, backquote]

/-- The marks that may be anywhere. -/
inductive Span : List Char → Prop where
  /-- A text without stars between two stars and two stars. -/
  | emphasis {inner : List Char} (nonempty : inner ≠ []) (free : '*' ∉ inner) :
      Span ('*' :: '*' :: (inner ++ ['*', '*']))
  /-- A text in square brackets and one in parentheses. -/
  | link {label target : List Char} (nonempty : label ≠ []) (free : ']' ∉ label) (goes : target ≠ [])
      (freeToo : ')' ∉ target) : Span ('[' :: (label ++ (']' :: '(' :: (target ++ [')']))))
  /-- A text between two backquotes. -/
  | code {inner : List Char} (nonempty : inner ≠ []) (free : backquote ∉ inner) :
      Span (backquote :: (inner ++ [backquote]))

/-- Whether a line starts with a mark, behind up to three white-space characters, or a mark of the
other kind is anywhere. -/
def HasMark (text : List Char) : Prop :=
  (∃ before indent mark after, text = before ++ (indent ++ (mark ++ after)) ∧
    Text.LineStart before ∧ indent.length ≤ 3 ∧ (∀ c ∈ indent, Text.isSpace c = true) ∧
    LineMark mark) ∨
  ∃ before span after, text = before ++ (span ++ after) ∧ Span span

/-! ### Marks at the start of a line -/

section Line

variable {text : List Char} {c d : Char}

/-- A character that is no white space. -/
theorem ne_of_isSpace (space : Text.isSpace c = true) (mark : Text.isSpace d = false) : c ≠ d := by
  rintro rfl
  rw [space] at mark
  cases mark

theorem spaceHere_iff :
    spaceHere text = true ↔ ∃ space after, text = space :: after ∧ Text.isSpace space = true := by
  cases text <;> simp [spaceHere]

theorem heading_iff :
    heading text = true ↔ ∃ signs space after, text = signs ++ space :: after ∧ signs ≠ [] ∧
      signs.length ≤ 6 ∧ (∀ c ∈ signs, c = '#') ∧ Text.isSpace space = true := by
  simp only [heading, Bool.and_eq_true, decide_eq_true_eq, Text.drop_length_takeWhile,
    spaceHere_iff]
  constructor
  · rintro ⟨⟨one, six⟩, space, after, skipped, isSpace⟩
    refine ⟨_, space, after, ?_, List.length_pos_iff.1 one, six, ?_, isSpace⟩
    · rw [← skipped, List.takeWhile_append_dropWhile]
    · exact fun c member => beq_iff_eq.1 (List.all_eq_true.1 List.all_takeWhile c member)
  · rintro ⟨signs, space, after, rfl, nonempty, six, all, isSpace⟩
    have all : ∀ c ∈ signs, (c == '#') = true := fun c member => beq_iff_eq.2 (all c member)
    have stops : (space :: after).head?.any (· == '#') = false :=
      beq_eq_false_iff_ne.2 (ne_of_isSpace isSpace (by decide))
    rw [Text.takeWhile_append_eq all stops]
    exact ⟨⟨List.length_pos_iff.2 nonempty, six⟩, space, after,
      Text.dropWhile_eq_iff.2 ⟨signs, rfl, all, stops⟩, isSpace⟩

theorem bullet_iff :
    bullet text = true ↔ ∃ c space after, text = c :: space :: after ∧
      (c = '-' ∨ c = '*' ∨ c = '+') ∧ Text.isSpace space = true := by
  cases text with
  | nil => simp [bullet]
  | cons c rest =>
      simp only [bullet, Bool.and_eq_true, Bool.or_eq_true, beq_iff_eq, spaceHere_iff, or_assoc]
      constructor
      · rintro ⟨isBullet, space, after, rfl, isSpace⟩
        exact ⟨c, space, after, rfl, isBullet, isSpace⟩
      · rintro ⟨_, space, after, ⟨⟩, isBullet, isSpace⟩
        exact ⟨isBullet, space, after, rfl, isSpace⟩

theorem enumeration_iff :
    enumeration text = true ↔ ∃ digits space after, text = digits ++ '.' :: space :: after ∧
      digits ≠ [] ∧ (∀ c ∈ digits, Text.isDecimalDigit c = true) ∧
      Text.isSpace space = true := by
  simp only [enumeration, Text.drop_length_takeWhile]
  constructor
  · intro found
    split at found
    case h_2 => cases found
    case h_1 rest skipped =>
      obtain ⟨one, here⟩ := Bool.and_eq_true_iff.1 found
      obtain ⟨space, after, rfl, isSpace⟩ := spaceHere_iff.1 here
      refine ⟨_, space, after, ?_, List.length_pos_iff.1 (of_decide_eq_true one),
        List.all_eq_true.1 List.all_takeWhile, isSpace⟩
      rw [← skipped, List.takeWhile_append_dropWhile]
  · rintro ⟨digits, space, after, rfl, nonempty, all, isSpace⟩
    have noDigit : Text.isDecimalDigit '.' = false := by decide +kernel
    have stops : ('.' :: space :: after).head?.any Text.isDecimalDigit = false := by
      rw [List.head?_cons, Option.any_some, noDigit]
    have skipped := Text.dropWhile_eq_iff.2 ⟨digits, rfl, all, stops⟩
    simp only [skipped, Text.takeWhile_append_eq all stops, Bool.and_eq_true, decide_eq_true_eq]
    exact ⟨List.length_pos_iff.2 nonempty, spaceHere_iff.2 ⟨space, after, rfl, isSpace⟩⟩

theorem quotation_iff :
    quotation text = true ↔ ∃ space after, text = '>' :: space :: after ∧
      Text.isSpace space = true := by
  rw [quotation.eq_def]
  split
  case h_1 rest =>
    rw [spaceHere_iff]
    simp
  case h_2 other =>
    simp only [Bool.false_eq_true, false_iff]
    rintro ⟨space, after, rfl, -⟩
    exact other _ rfl

theorem fence_iff :
    fence text = true ↔ ∃ after, text = backquote :: backquote :: backquote :: after := by
  rw [fence, Option.isSome_iff_exists]
  rcases text with _ | ⟨one, _ | ⟨two, _ | ⟨three, after⟩⟩⟩
  all_goals simp [Text.after?, eq_comm]

/-- The five tests find the marks. -/
theorem markHere_iff :
    (heading text || bullet text || enumeration text || quotation text || fence text) = true ↔
      ∃ mark after, text = mark ++ after ∧ LineMark mark := by
  simp only [Bool.or_eq_true, heading_iff, bullet_iff, enumeration_iff, quotation_iff, fence_iff]
  constructor
  · rintro ((((⟨signs, space, after, rfl, nonempty, few, all, isSpace⟩ |
        ⟨c, space, after, rfl, isBullet, isSpace⟩) |
        ⟨digits, space, after, rfl, nonempty, all, isSpace⟩) | ⟨space, after, rfl, isSpace⟩) |
        ⟨after, rfl⟩)
    · exact ⟨_, after, by simp, .heading nonempty few all isSpace⟩
    · exact ⟨_, after, rfl, .bullet isBullet isSpace⟩
    · exact ⟨_, after, by simp, .enumeration nonempty all isSpace⟩
    · exact ⟨_, after, rfl, .quotation isSpace⟩
    · exact ⟨_, after, rfl, .fence⟩
  · rintro ⟨_, after, rfl, isMark⟩
    cases isMark with
    | heading nonempty few all isSpace =>
        exact .inl (.inl (.inl (.inl ⟨_, _, after, by simp, nonempty, few, all, isSpace⟩)))
    | bullet isBullet isSpace =>
        exact .inl (.inl (.inl (.inr ⟨_, _, after, rfl, isBullet, isSpace⟩)))
    | enumeration nonempty all isSpace =>
        exact .inl (.inl (.inr ⟨_, _, after, by simp, nonempty, all, isSpace⟩))
    | quotation isSpace => exact .inl (.inr ⟨_, after, rfl, isSpace⟩)
    | fence => exact .inr ⟨after, rfl⟩

/-- No mark starts with white space. -/
theorem LineMark.head_any {mark : List Char} (isMark : LineMark mark) (after : List Char) :
    (mark ++ after).head?.any Text.isSpace = false := by
  cases isMark with
  | heading nonempty few all isSpace =>
      obtain ⟨c, signs, rfl⟩ := List.exists_cons_of_ne_nil nonempty
      obtain rfl := all c List.mem_cons_self
      rfl
  | bullet isBullet isSpace =>
      rcases isBullet with rfl | rfl | rfl
      all_goals rfl
  | enumeration nonempty all isSpace =>
      obtain ⟨c, digits, rfl⟩ := List.exists_cons_of_ne_nil nonempty
      have digit := all c List.mem_cons_self
      refine Bool.eq_false_iff.2 fun space => ?_
      rw [Text.isDecimalDigit_eq_false_of_isSpace space] at digit
      cases digit
  | quotation isSpace => rfl
  | fence => rfl

theorem lineMark_iff :
    lineMark text = true ↔ ∃ indent mark after, text = indent ++ (mark ++ after) ∧
      indent.length ≤ 3 ∧ (∀ c ∈ indent, Text.isSpace c = true) ∧ LineMark mark := by
  simp only [lineMark, Text.drop_length_takeWhile, Bool.and_eq_true, decide_eq_true_eq,
    markHere_iff]
  constructor
  · rintro ⟨short, mark, after, marked, isMark⟩
    refine ⟨_, mark, after, ?_, short, List.all_eq_true.1 List.all_takeWhile, isMark⟩
    rw [← marked, List.takeWhile_append_dropWhile]
  · rintro ⟨indent, mark, after, rfl, short, all, isMark⟩
    have stops := isMark.head_any after
    rw [Text.takeWhile_append_eq all stops]
    exact ⟨short, mark, after, Text.dropWhile_eq_iff.2 ⟨indent, rfl, all, stops⟩, isMark⟩

end Line

/-! ### Marks anywhere -/

section Span

variable {text rest : List Char} {stop : Char}

theorem afterSpan?_append {inner : List Char} (nonempty : inner ≠ []) (free : stop ∉ inner)
    (rest : List Char) : afterSpan? stop (inner ++ stop :: rest) = some rest := by
  obtain ⟨c, part, rfl⟩ := List.exists_cons_of_ne_nil nonempty
  have skipped : ((c :: part ++ stop :: rest).dropWhile fun c => c != stop) = stop :: rest :=
    Text.dropWhile_ne_eq_cons_iff.2 ⟨rfl, c :: part, rfl, free⟩
  have taken : ((c :: part ++ stop :: rest).takeWhile fun c => c != stop) = c :: part :=
    Text.takeWhile_append_eq (Text.forall_bne_iff.2 free) (by simp)
  rw [afterSpan?, taken, skipped]

theorem afterSpan?_eq_some_iff :
    afterSpan? stop text = some rest ↔
      ∃ inner, text = inner ++ stop :: rest ∧ inner ≠ [] ∧ stop ∉ inner := by
  constructor
  · intro found
    rw [afterSpan?] at found
    split at found
    case h_2 => cases found
    case h_1 c part d rest taken skipped =>
      cases found
      obtain ⟨-, inner, rfl, free⟩ := Text.dropWhile_ne_eq_cons_iff.1 skipped
      refine ⟨inner, rfl, ?_, free⟩
      rintro rfl
      simp at taken
  · rintro ⟨inner, rfl, nonempty, free⟩
    exact afterSpan?_append nonempty free rest

theorem emphasis_iff :
    emphasis text = true ↔ ∃ inner after, text = '*' :: '*' :: (inner ++ '*' :: '*' :: after) ∧
      inner ≠ [] ∧ '*' ∉ inner := by
  constructor
  · intro found
    rw [emphasis.eq_def] at found
    split at found
    case h_2 => cases found
    case h_1 text =>
      split at found
      case h_2 => cases found
      case h_1 rest ends =>
        obtain ⟨after, rfl⟩ := List.head?_eq_some_iff.1 (beq_iff_eq.1 found)
        obtain ⟨inner, rfl, nonempty, free⟩ := afterSpan?_eq_some_iff.1 ends
        exact ⟨inner, after, rfl, nonempty, free⟩
  · rintro ⟨inner, after, rfl, nonempty, free⟩
    rw [emphasis, afterSpan?_append nonempty free]
    rfl

theorem link_iff :
    link text = true ↔ ∃ label target after,
      text = '[' :: (label ++ ']' :: '(' :: (target ++ ')' :: after)) ∧
        (label ≠ [] ∧ ']' ∉ label) ∧ target ≠ [] ∧ ')' ∉ target := by
  constructor
  · intro found
    rw [link.eq_def] at found
    split at found
    case h_2 => cases found
    case h_1 text =>
      split at found
      case h_2 => cases found
      case h_1 rest ends =>
        obtain ⟨after, endsToo⟩ := Option.isSome_iff_exists.1 found
        obtain ⟨target, rfl, free⟩ := afterSpan?_eq_some_iff.1 endsToo
        obtain ⟨label, rfl, freeToo⟩ := afterSpan?_eq_some_iff.1 ends
        exact ⟨label, target, after, rfl, freeToo, free⟩
  · rintro ⟨label, target, after, rfl, ⟨nonempty, free⟩, goes, freeToo⟩
    simp only [link, afterSpan?_append nonempty free, afterSpan?_append goes freeToo,
      Option.isSome_some]

theorem codeSpan_iff :
    codeSpan text = true ↔ ∃ inner after, text = backquote :: (inner ++ backquote :: after) ∧
      inner ≠ [] ∧ backquote ∉ inner := by
  cases text with
  | nil => simp [codeSpan]
  | cons c text =>
      simp only [codeSpan, Bool.and_eq_true, beq_iff_eq, Option.isSome_iff_exists,
        afterSpan?_eq_some_iff]
      constructor
      · rintro ⟨rfl, after, inner, rfl, free⟩
        exact ⟨inner, after, rfl, free⟩
      · rintro ⟨inner, after, ⟨⟩, free⟩
        exact ⟨rfl, after, inner, rfl, free⟩

theorem spanHere_iff :
    (emphasis text || link text || codeSpan text) = true ↔
      ∃ span after, text = span ++ after ∧ Span span := by
  simp only [Bool.or_eq_true, emphasis_iff, link_iff, codeSpan_iff]
  constructor
  · rintro ((⟨inner, after, rfl, nonempty, free⟩ |
        ⟨label, target, after, rfl, ⟨nonempty, free⟩, goes, freeToo⟩) |
        ⟨inner, after, rfl, nonempty, free⟩)
    · exact ⟨_, after, by simp, .emphasis nonempty free⟩
    · exact ⟨_, after, by simp, .link nonempty free goes freeToo⟩
    · exact ⟨_, after, by simp, .code nonempty free⟩
  · rintro ⟨_, after, rfl, isSpan⟩
    cases isSpan with
    | emphasis nonempty free => exact .inl (.inl ⟨_, after, by simp, nonempty, free⟩)
    | link nonempty free goes freeToo =>
        exact .inl (.inr ⟨_, _, after, by simp, ⟨nonempty, free⟩, goes, freeToo⟩)
    | code nonempty free => exact .inr ⟨_, after, by simp, nonempty, free⟩

end Span

/-- The search finds a mark exactly if there is one. -/
theorem hasMark_iff {text : List Char} : hasMark text = true ↔ HasMark text := by
  rw [hasMark, Bool.or_eq_true, Text.atSomeLine_iff, Text.somewhere_iff]
  simp only [lineMark_iff, spanHere_iff]
  constructor
  · rintro (⟨before, _, rfl, start, indent, mark, after, rfl, isMark⟩ |
      ⟨before, _, rfl, span, after, rfl, isSpan⟩)
    · exact .inl ⟨before, indent, mark, after, rfl, start, isMark⟩
    · exact .inr ⟨before, span, after, rfl, isSpan⟩
  · rintro (⟨before, indent, mark, after, rfl, start, isMark⟩ | ⟨before, span, after, rfl, isSpan⟩)
    · exact .inl ⟨before, _, rfl, start, indent, mark, after, rfl, isMark⟩
    · exact .inr ⟨before, _, rfl, span, after, rfl, isSpan⟩

/-! ### The pattern -/

section Mark

open Pattern (Matches)

variable {before part after : List Char}

/-- `\s` -/
def spacePattern : Pattern := .one Text.isSpace

/-- `#{1,6}\s|[-*+]\s|\d+\.\s|>\s` and three backquotes. -/
def lineMarkPattern : Pattern :=
  .choice (.sequence [.oneAnd (.char '#') 5, spacePattern])
    [.sequence [.one fun c => c == '-' || c == '*' || c == '+', spacePattern],
      .sequence [.some (.one Text.isDecimalDigit), .char '.', spacePattern],
      .sequence [.char '>', spacePattern],
      .sequence [.char backquote, .char backquote, .char backquote]]

/-- `\*\*[^*]+\*\*`, `\[[^\]]+\]\([^)]+\)`, and a code span. -/
def spanPattern : Pattern :=
  .choice (.sequence [.char '*', .char '*', .some (.not '*'), .char '*', .char '*'])
    [.sequence [.char '[', .some (.not ']'), .char ']', .char '(', .some (.not ')'), .char ')'],
      .sequence [.char backquote, .some (.not backquote), .char backquote]]

/-- `^\s{0,3}` and a mark of a line, or a mark that may be anywhere. -/
def markPattern : Pattern :=
  .either (.sequence [.lineStart, .upTo spacePattern 3, lineMarkPattern]) spanPattern

theorem matches_spacePattern :
    Matches spacePattern before part after ↔ ∃ space, part = [space] ∧ Text.isSpace space = true :=
  Pattern.matches_one

theorem matches_lineMarkPattern : Matches lineMarkPattern before part after ↔ LineMark part := by
  simp only [lineMarkPattern, Pattern.choice, Pattern.matches_either, Pattern.sequence,
    Pattern.matches_seq, Pattern.char, Pattern.matches_oneAnd_one, Pattern.matches_some_one,
    Pattern.matches_one, Pattern.matches_empty, matches_spacePattern, Bool.or_eq_true, beq_iff_eq]
  constructor
  · rintro (⟨signs, _, rfl, ⟨nonempty, few, all⟩, _, _, rfl, ⟨space, rfl, isSpace⟩, rfl⟩ |
      ⟨_, _, rfl, ⟨c, rfl, isBullet⟩, _, _, rfl, ⟨space, rfl, isSpace⟩, rfl⟩ |
      ⟨digits, _, rfl, ⟨nonempty, all⟩, _, _, rfl, ⟨_, rfl, rfl⟩, _, _, rfl,
        ⟨space, rfl, isSpace⟩, rfl⟩ |
      ⟨_, _, rfl, ⟨_, rfl, rfl⟩, _, _, rfl, ⟨space, rfl, isSpace⟩, rfl⟩ |
      ⟨_, _, rfl, ⟨_, rfl, rfl⟩, _, _, rfl, ⟨_, rfl, rfl⟩, _, _, rfl, ⟨_, rfl, rfl⟩, rfl⟩)
    · exact .heading nonempty few all isSpace
    · exact .bullet (or_assoc.1 isBullet) isSpace
    · exact .enumeration nonempty all isSpace
    · exact .quotation isSpace
    · exact .fence
  · intro isMark
    cases isMark with
    | heading nonempty few all isSpace =>
        exact .inl ⟨_, _, rfl, ⟨nonempty, few, all⟩, [_], [], rfl, ⟨_, rfl, isSpace⟩, rfl⟩
    | bullet isBullet isSpace =>
        exact .inr (.inl ⟨[_], _, rfl, ⟨_, rfl, or_assoc.2 isBullet⟩, [_], [], rfl,
          ⟨_, rfl, isSpace⟩, rfl⟩)
    | enumeration nonempty all isSpace =>
        exact .inr (.inr (.inl ⟨_, _, rfl, ⟨nonempty, all⟩, [_], _, rfl, ⟨_, rfl, rfl⟩, [_], [],
          rfl, ⟨_, rfl, isSpace⟩, rfl⟩))
    | quotation isSpace =>
        exact .inr (.inr (.inr (.inl ⟨[_], _, rfl, ⟨_, rfl, rfl⟩, [_], [], rfl,
          ⟨_, rfl, isSpace⟩, rfl⟩)))
    | fence =>
        exact .inr (.inr (.inr (.inr ⟨[_], _, rfl, ⟨_, rfl, rfl⟩, [_], _, rfl, ⟨_, rfl, rfl⟩,
          [_], [], rfl, ⟨_, rfl, rfl⟩, rfl⟩)))

theorem matches_spanPattern : Matches spanPattern before part after ↔ Span part := by
  simp only [spanPattern, Pattern.choice, Pattern.matches_either, Pattern.sequence,
    Pattern.matches_seq, Pattern.matches_char, Pattern.matches_some_not, Pattern.matches_empty]
  constructor
  · rintro (⟨_, _, rfl, rfl, _, _, rfl, rfl, inner, _, rfl, ⟨nonempty, free⟩, _, _, rfl, rfl,
        _, _, rfl, rfl, rfl⟩ |
      ⟨_, _, rfl, rfl, label, _, rfl, ⟨nonempty, free⟩, _, _, rfl, rfl, _, _, rfl, rfl,
        target, _, rfl, ⟨goes, freeToo⟩, _, _, rfl, rfl, rfl⟩ |
      ⟨_, _, rfl, rfl, inner, _, rfl, ⟨nonempty, free⟩, _, _, rfl, rfl, rfl⟩)
    · exact .emphasis nonempty free
    · exact .link nonempty free goes freeToo
    · exact .code nonempty free
  · intro isSpan
    cases isSpan with
    | emphasis nonempty free =>
        exact .inl ⟨[_], _, rfl, rfl, [_], _, rfl, rfl, _, _, rfl, ⟨nonempty, free⟩, [_], _, rfl,
          rfl, [_], [], rfl, rfl, rfl⟩
    | link nonempty free goes freeToo =>
        exact .inr (.inl ⟨[_], _, rfl, rfl, _, _, rfl, ⟨nonempty, free⟩, [_], _, rfl, rfl,
          [_], _, rfl, rfl, _, _, rfl, ⟨goes, freeToo⟩, [_], [], rfl, rfl, rfl⟩)
    | code nonempty free =>
        exact .inr (.inr ⟨[_], _, rfl, rfl, _, _, rfl, ⟨nonempty, free⟩, [_], [], rfl, rfl, rfl⟩)

/-- The pattern is found exactly in the texts with a mark. -/
theorem found_markPattern_iff {text : List Char} : markPattern.Found text ↔ HasMark text := by
  simp only [Pattern.Found, markPattern, Pattern.matches_either, Pattern.sequence,
    Pattern.matches_seq, Pattern.matches_lineStart, spacePattern, Pattern.matches_upTo_one,
    matches_lineMarkPattern, matches_spanPattern, Pattern.matches_empty]
  constructor
  · rintro ⟨before, _, after, rfl, ⟨_, _, rfl, ⟨rfl, start⟩, indent, _, rfl, ⟨short, all⟩, mark, _,
      rfl, isMark, rfl⟩ | isSpan⟩
    · exact .inl ⟨before, indent, mark, after, by simp, start, short, all, isMark⟩
    · exact .inr ⟨before, _, after, by simp, isSpan⟩
  · rintro (⟨before, indent, mark, after, rfl, start, short, all, isMark⟩ |
      ⟨before, span, after, rfl, isSpan⟩)
    · exact ⟨before, indent ++ mark, after, by simp, .inl ⟨[], indent ++ mark, rfl, ⟨rfl, start⟩,
        indent, mark, rfl, ⟨short, all⟩, mark, [], by simp, isMark, rfl⟩⟩
    · exact ⟨before, span, after, by simp, .inr isSpan⟩

end Mark

end Parley.Markdown
