import Mathlib.Tactic.SplitIfs
import LiveShader.Proofs.Text.LineEnds

/-! # Comments of a shader text

A reader that goes through a text tells code from comments. The outline of a text is what
is left when the characters inside its comments are taken out, all but the line feeds. -/

namespace LiveShader.Glsl

/-- Where a reader of a shader text stands. -/
inductive Region where
  | code
  /-- In code, behind a slash that may open a comment. -/
  | slash
  /-- In a comment that ends with its line. -/
  | line
  /-- In a comment that ends with an asterisk and a slash. -/
  | block
  /-- In a block comment, behind an asterisk that may close it. -/
  | star
  deriving DecidableEq, Repr

namespace Region

def isCode : Region → Bool
  | .code | .slash => true
  | .line | .block | .star => false

def next (region : Region) (character : Char) : Region :=
  match region with
  | .code => if character = '/' then .slash else .code
  | .slash => if character = '/' then .line else if character = '*' then .block else .code
  | .line => if character = '\n' then .code else .line
  | .block => if character = '*' then .star else .block
  | .star => if character = '/' then .code else if character = '*' then .star else .block

/-- What stays of one more character. An asterisk in a comment stays once it is known to
close the comment. -/
def kept (region : Region) (character : Char) : List Char :=
  match region with
  | .code | .slash => [character]
  | .line | .block => if character = '\n' then ['\n'] else []
  | .star => if character = '/' then ['*', '/'] else if character = '\n' then ['\n'] else []

/-- Where the reader stands behind a text. -/
def after (region : Region) (text : List Char) : Region :=
  text.foldl next region

/-- What stays of a text that is read from here. -/
def outline (region : Region) : List Char → List Char
  | [] => []
  | character :: rest => region.kept character ++ (region.next character).outline rest

/-- The region of a reader that has seen nothing of the end of a comment. -/
def settled : Region → Region
  | .star => .block
  | region => region

example : Region.code.outline "a // b\n/* c\n* d **/ e".toList = "a //\n/*\n*/ e".toList := by
  decide +kernel

/-! ## Reading on -/

variable {region : Region} {first second : List Char}

theorem after_append (region : Region) (first second : List Char) :
    region.after (first ++ second) = (region.after first).after second :=
  List.foldl_append

theorem outline_append (region : Region) (first second : List Char) :
    region.outline (first ++ second) =
      region.outline first ++ (region.after first).outline second := by
  induction first generalizing region with
  | nil => rfl
  | cons character rest induction =>
      rw [List.cons_append, outline, outline, induction, List.append_assoc]
      rfl

theorem kept_of_isCode (code : region.isCode) (character : Char) :
    region.kept character = [character] := by
  cases region with
  | code | slash => rfl
  | line | block | star => cases code

theorem kept_lineFeed (region : Region) : region.kept '\n' = ['\n'] := by
  cases region <;> rfl

theorem next_lineFeed_settled (region : Region) : region.settled.next '\n' = region.next '\n' := by
  cases region <;> rfl

theorem outline_lineFeed (region : Region) (line rest : List Char) :
    region.outline (line ++ '\n' :: rest) =
      region.outline line ++ '\n' :: ((region.after line).next '\n').outline rest := by
  rw [outline_append, outline, kept_lineFeed, List.singleton_append]

theorem lineFeed_not_mem_kept {character : Char} (other : character ≠ '\n') (region : Region) :
    '\n' ∉ region.kept character := by
  cases region with
  | code | slash => simpa [kept] using Ne.symm other
  | line | block => simp [kept, other]
  | star =>
      rw [kept, if_neg other]
      split_ifs <;> simp

theorem lineFeed_not_mem_outline {line : List Char} (unbroken : '\n' ∉ line) (region : Region) :
    '\n' ∉ region.outline line := by
  induction line generalizing region with
  | nil => exact List.not_mem_nil
  | cons character rest induction =>
      rw [List.mem_cons, not_or] at unbroken
      exact List.not_mem_append (lineFeed_not_mem_kept (Ne.symm unbroken.1) _)
        (induction unbroken.2 _)

theorem after_line {line : List Char} (unbroken : '\n' ∉ line) :
    Region.line.after line = .line := by
  induction line with
  | nil => rfl
  | cons character rest induction =>
      rw [List.mem_cons, not_or] at unbroken
      have stays : Region.line.next character = .line := if_neg (Ne.symm unbroken.1)
      rw [after, List.foldl_cons, stays]
      exact induction unbroken.2

theorem outline_line {line : List Char} (unbroken : '\n' ∉ line) :
    Region.line.outline line = [] := by
  induction line with
  | nil => rfl
  | cons character rest induction =>
      rw [List.mem_cons, not_or] at unbroken
      have stays : Region.line.next character = .line := if_neg (Ne.symm unbroken.1)
      have dropped : Region.line.kept character = [] := if_neg (Ne.symm unbroken.1)
      rw [outline, stays, dropped, induction unbroken.2]
      rfl

theorem read_in_block {text : List Char} (star : '*' ∉ text) (unbroken : '\n' ∉ text) :
    Region.block.after text = .block ∧ Region.block.outline text = [] := by
  induction text with
  | nil => exact ⟨rfl, rfl⟩
  | cons character rest induction =>
      rw [List.mem_cons, not_or] at star unbroken
      have stays : Region.block.next character = .block := if_neg (Ne.symm star.1)
      have dropped : Region.block.kept character = [] := if_neg (Ne.symm unbroken.1)
      rcases induction star.2 unbroken.2 with ⟨inside, nothing⟩
      refine ⟨?_, ?_⟩
      · rw [after, List.foldl_cons, stays]
        exact inside
      · rw [outline, stays, dropped, nothing]
        rfl

/-! ## Equal outlines -/

theorem after_settled_kept (region : Region) (character : Char) :
    region.settled.after (region.kept character) = (region.next character).settled := by
  cases region <;> simp only [kept, next, settled, after] <;> split_ifs <;>
    simp_all [next]

theorem after_settled_outline (region : Region) (text : List Char) :
    region.settled.after (region.outline text) = (region.after text).settled := by
  induction text generalizing region with
  | nil => rfl
  | cons character rest induction =>
      rw [outline, after_append, after_settled_kept, induction]
      rfl

theorem settled_after_congr (same : region.outline first = region.outline second) :
    (region.after first).settled = (region.after second).settled := by
  rw [← after_settled_outline, same, after_settled_outline]

theorem next_lineFeed_congr (same : region.outline first = region.outline second) :
    (region.after first).next '\n' = (region.after second).next '\n' := by
  rw [← next_lineFeed_settled, settled_after_congr same, next_lineFeed_settled]

end Region

/-! ## Code without comments -/

/-- Whether no comment is opened in a text. -/
structure IsPlain (text : List Char) : Prop where
  line : ¬['/', '/'] <:+: text
  block : ¬['/', '*'] <:+: text

namespace IsPlain

variable {text first second : List Char}

theorem part (plain : IsPlain text) (inside : first <:+: text) : IsPlain first :=
  ⟨fun opened => plain.line (opened.trans inside), fun opened => plain.block (opened.trans inside)⟩

theorem nil : IsPlain [] := ⟨by decide, by decide⟩

theorem of_no_slash (none : '/' ∉ text) : IsPlain text :=
  ⟨fun opened => none (opened.subset (.head _)), fun opened => none (opened.subset (.head _))⟩

theorem cons {character : Char} (plain : IsPlain text) (other : character ≠ '/') :
    IsPlain (character :: text) := by
  refine ⟨fun opened => ?_, fun opened => ?_⟩
  · rcases List.infix_cons_iff.mp opened with leads | inside
    · exact other (List.cons_prefix_cons.mp leads).1.symm
    · exact plain.line inside
  · rcases List.infix_cons_iff.mp opened with leads | inside
    · exact other (List.cons_prefix_cons.mp leads).1.symm
    · exact plain.block inside

theorem slash_cons {character : Char} (plain : IsPlain (character :: text))
    (slash : character ≠ '/') (star : character ≠ '*') : IsPlain ('/' :: character :: text) := by
  refine ⟨fun opened => ?_, fun opened => ?_⟩
  · rcases List.infix_cons_iff.mp opened with leads | inside
    · have second := (List.cons_prefix_cons.mp leads).2
      exact slash (List.cons_prefix_cons.mp second).1.symm
    · exact plain.line inside
  · rcases List.infix_cons_iff.mp opened with leads | inside
    · have second := (List.cons_prefix_cons.mp leads).2
      exact star (List.cons_prefix_cons.mp second).1.symm
    · exact plain.block inside

theorem of_slash_cons {character : Char} (plain : IsPlain ('/' :: character :: text)) :
    character ≠ '/' ∧ character ≠ '*' ∧ IsPlain (character :: text) := by
  refine ⟨?_, ?_, plain.part (List.suffix_cons _ _).isInfix⟩
  · rintro rfl
    exact plain.line (List.prefix_append ['/', '/'] text).isInfix
  · rintro rfl
    exact plain.block (List.prefix_append ['/', '*'] text).isInfix

/-- No comment is opened where two texts meet behind something else than a slash. -/
theorem append (plain : IsPlain first) (later : IsPlain second)
    (ended : first.getLast? ≠ some '/') : IsPlain (first ++ second) := by
  induction first with
  | nil => exact later
  | cons character rest induction =>
      have plainRest : IsPlain rest := plain.part (List.suffix_cons _ _).isInfix
      cases rest with
      | nil => exact later.cons fun slash => ended (by rw [slash]; rfl)
      | cons next others =>
          rw [List.getLast?_cons_cons] at ended
          have behind := induction plainRest ended
          by_cases slash : character = '/'
          · subst slash
            rcases plain.of_slash_cons with ⟨noSlash, noStar, _⟩
            exact behind.slash_cons noSlash noStar
          · exact behind.cons slash

theorem append_cons {separator : Char} (plain : IsPlain first) (later : IsPlain second)
    (slash : separator ≠ '/') (star : separator ≠ '*') :
    IsPlain (first ++ separator :: second) := by
  induction first with
  | nil => exact later.cons slash
  | cons character rest induction =>
      have behind := induction (plain.part (List.suffix_cons _ _).isInfix)
      by_cases opens : character = '/'
      · subst opens
        cases rest with
        | nil => exact behind.slash_cons slash star
        | cons next others =>
            rcases plain.of_slash_cons with ⟨noSlash, noStar, _⟩
            exact behind.slash_cons noSlash noStar
      · exact behind.cons opens

theorem read (plain : IsPlain text) :
    (Region.code.after text).isCode ∧ Region.code.outline text = text := by
  -- Behind a slash, the slash belongs to what is read.
  suffices both : ((Region.code.after text).isCode ∧ Region.code.outline text = text) ∧
      (IsPlain ('/' :: text) → (Region.slash.after text).isCode ∧
        Region.slash.outline text = text) from both.1
  induction text with
  | nil => exact ⟨⟨rfl, rfl⟩, fun _ => ⟨rfl, rfl⟩⟩
  | cons character rest induction =>
      rcases induction (plain.part (List.suffix_cons _ _).isInfix) with ⟨code, slash⟩
      refine ⟨?_, fun behind => ?_⟩
      · by_cases opens : character = '/'
        · subst opens
          rcases slash plain with ⟨stays, same⟩
          exact ⟨stays, congrArg _ same⟩
        · have stays : Region.code.next character = .code := if_neg opens
          rw [Region.after, List.foldl_cons, Region.outline, stays]
          exact ⟨code.1, congrArg _ code.2⟩
      · rcases behind.of_slash_cons with ⟨noSlash, noStar, _⟩
        have stays : Region.slash.next character = .code := by
          rw [Region.next, if_neg noSlash, if_neg noStar]
        rw [Region.after, List.foldl_cons, Region.outline, stays]
        exact ⟨code.1, congrArg _ code.2⟩

end IsPlain

/-! ## The first comment -/

/-- A text with a comment, the first of which is opened behind some code. -/
structure IsOpened (text code : List Char) (opener : Char) (rest : List Char) : Prop where
  split : text = code ++ '/' :: opener :: rest
  opens : opener = '/' ∨ opener = '*'
  plain : IsPlain (code ++ ['/'])

namespace IsOpened

variable {text code rest : List Char} {opener : Char}

theorem nil (opens : opener = '/' ∨ opener = '*') (rest : List Char) :
    IsOpened ('/' :: opener :: rest) [] opener rest :=
  ⟨rfl, opens, by decide, by decide⟩

theorem after_slash (opened : IsOpened text code opener rest) :
    Region.code.after (code ++ ['/']) = .slash := by
  have plain : IsPlain code := opened.plain.part (List.prefix_append code ['/']).isInfix
  have before := plain.read.1
  have behind := opened.plain.read.1
  rw [Region.after_append] at behind ⊢
  cases region : Region.code.after code with
  | code => rfl
  | slash =>
      rw [region] at behind
      cases behind
  | line | block | star =>
      rw [region] at before
      cases before

theorem after_split (opened : IsOpened text code opener rest) :
    Region.code.after text = (Region.slash.next opener).after rest := by
  have split : text = (code ++ ['/']) ++ opener :: rest := by simp [opened.split]
  rw [split, Region.after_append, opened.after_slash]
  rfl

theorem outline_split (opened : IsOpened text code opener rest) :
    Region.code.outline text =
      code ++ '/' :: opener :: (Region.slash.next opener).outline rest := by
  have split : text = (code ++ ['/']) ++ opener :: rest := by simp [opened.split]
  rw [split, Region.outline_append, opened.after_slash, opened.plain.read.2, List.append_assoc]
  rfl

theorem infix_opener (opened : IsOpened text code opener rest) : ['/', opener] <:+: text :=
  ⟨code, rest, by simp [opened.split]⟩

theorem not_isPlain (opened : IsOpened text code opener rest) : ¬IsPlain text := by
  intro plain
  rcases opened.opens with rfl | rfl
  · exact plain.line opened.infix_opener
  · exact plain.block opened.infix_opener

theorem length_le {other behind : List Char} {second : Char}
    (opened : IsOpened text code opener rest) (again : IsOpened text other second behind) :
    code.length ≤ other.length := by
  by_contra shorter
  rw [Nat.not_le] at shorter
  have reaches : other ++ ['/', second] <+: code ++ ['/'] := by
    have first : other ++ ['/', second] <+: text := ⟨behind, by simp [again.split]⟩
    have second : code ++ ['/'] <+: text := ⟨opener :: rest, by simp [opened.split]⟩
    refine List.prefix_of_prefix_length_le first second ?_
    simp only [List.length_append, List.length_cons, List.length_nil]
    omega
  have inside : ['/', second] <:+: code ++ ['/'] :=
    (List.suffix_append other _).isInfix.trans reaches.isInfix
  rcases again.opens with rfl | rfl
  · exact opened.plain.line inside
  · exact opened.plain.block inside

theorem unique {other behind : List Char} {second : Char}
    (opened : IsOpened text code opener rest) (again : IsOpened text other second behind) :
    other = code ∧ second = opener ∧ behind = rest := by
  have same := opened.split.symm.trans again.split
  have lengths : code.length = other.length :=
    Nat.le_antisymm (opened.length_le again) (again.length_le opened)
  rcases List.append_inj same lengths with ⟨rfl, rests⟩
  cases rests
  exact ⟨rfl, rfl, rfl⟩

end IsOpened

theorem isPlain_or_isOpened (text : List Char) :
    IsPlain text ∨ ∃ code opener rest, IsOpened text code opener rest := by
  induction text with
  | nil => exact .inl .nil
  | cons character text induction =>
      by_cases slash : character = '/'
      · subst slash
        cases text with
        | nil => exact .inl ⟨by decide, by decide⟩
        | cons next text =>
            by_cases opens : next = '/' ∨ next = '*'
            · exact .inr ⟨[], next, text, .nil opens text⟩
            · rw [not_or] at opens
              rcases induction with plain | ⟨code, opener, rest, opened⟩
              · exact .inl (plain.slash_cons opens.1 opens.2)
              · rcases code with _ | ⟨first, code⟩
                · exact absurd (List.cons.inj opened.split).1 opens.1
                · cases (List.cons.inj opened.split).1
                  exact .inr ⟨'/' :: next :: code, opener, rest, congrArg _ opened.split,
                    opened.opens, opened.plain.slash_cons opens.1 opens.2⟩
      · rcases induction with plain | ⟨code, opener, rest, opened⟩
        · exact .inl (plain.cons slash)
        · exact .inr ⟨character :: code, opener, rest, congrArg _ opened.split, opened.opens,
            opened.plain.cons slash⟩

/-- Texts with one outline are the same up to the opening of their first comments. -/
theorem eq_or_isOpened {first second : List Char}
    (same : Region.code.outline first = Region.code.outline second) :
    first = second ∨ ∃ code opener rest behind,
      IsOpened first code opener rest ∧ IsOpened second code opener behind ∧
        (Region.slash.next opener).outline rest = (Region.slash.next opener).outline behind := by
  have apart {plainText text code rest : List Char} {opener : Char} (plain : IsPlain plainText)
      (opened : IsOpened text code opener rest)
      (equal : Region.code.outline text = Region.code.outline plainText) : False := by
    rw [plain.read.2, opened.outline_split] at equal
    exact IsOpened.not_isPlain ⟨equal.symm, opened.opens, opened.plain⟩ plain
  rcases isPlain_or_isOpened first with plain | ⟨code, opener, rest, opened⟩ <;>
    rcases isPlain_or_isOpened second with otherPlain | ⟨other, second, behind, otherOpened⟩
  · rw [plain.read.2, otherPlain.read.2] at same
    exact .inl same
  · exact (apart plain otherOpened same.symm).elim
  · exact (apart otherPlain opened same).elim
  · have shared : IsOpened (Region.code.outline first) code opener _ :=
      ⟨opened.outline_split, opened.opens, opened.plain⟩
    have again : IsOpened (Region.code.outline first) other second _ :=
      ⟨same.trans otherOpened.outline_split, otherOpened.opens, otherOpened.plain⟩
    rcases shared.unique again with ⟨rfl, rfl, inside⟩
    exact .inr ⟨_, _, rest, behind, opened, otherOpened, inside.symm⟩

end LiveShader.Glsl
