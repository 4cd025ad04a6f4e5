import Mathlib.Data.List.TakeWhile
import TrusteeBank.Lib.JsonText
import TrusteeBank.Lib.Transducer

/-!
# Reading JSON

A text is read in two passes, none of which looks back. The `lexer` cuts it into tokens: a string
in quotes, a maximal run of letters, digits and signs, or one mark. The parser keeps a stack of
the arrays and objects that are still open, and each token either moves it on or ends it. What
the number of a literal is comes from outside.

**Theorem (`parse_write`).** The text of a value with distinct keys, whose numbers are written as
numbers, is read as the value, with each number replaced by that of its text.

Of a piece of text the proof says which tokens it makes (`Scans`), where the last token may still
be open, and of the tokens of a value that they lead from the state in which a value is expected
to the state in which this value has been read (`parse_tokens`).
-/

set_option autoImplicit false

namespace Lib

namespace Json

open Utf16

variable {ν ξ : Type}

/-! ## Numbers -/

def isDigit (u : CodeUnit) : Bool := 48 ≤ u.val && u.val ≤ 57

def isExponent : Utf16 → Bool
  | [] => true
  | e :: s =>
    let digits := match s with
      | sign :: ds => if sign = unit '+' ∨ sign = unit '-' then ds else s
      | [] => []
    (e = unit 'e' || e = unit 'E') && digits ≠ [] && digits.all isDigit

def isFraction : Utf16 → Bool
  | [] => true
  | u :: s =>
    if u = unit '.' then s.takeWhile isDigit ≠ [] && isExponent (s.dropWhile isDigit)
    else isExponent (u :: s)

def isUnsigned (s : Utf16) : Bool :=
  let digits := s.takeWhile isDigit
  (digits.length = 1 || digits ≠ [] && digits.head? ≠ some (unit '0')) &&
    isFraction (s.dropWhile isDigit)

/-- The number literals of JSON. -/
def isNumber : Utf16 → Bool
  | [] => false
  | u :: s => if u = unit '-' then isUnsigned s else isUnsigned (u :: s)

/-! ## Tokens -/

inductive Token (ν : Type)
  | openArray
  | closeArray
  | openObject
  | closeObject
  | comma
  | colon
  | null
  | bool (b : Bool)
  | number (n : ν)
  | string (s : Utf16)
  | invalid

/-- Where the lexer is, with what it has read of the token. -/
inductive Mode
  | blank
  | word (read : Utf16)
  | string (read : Utf16)
  | escape (read : Utf16)
  | hex (read : Utf16) (missing value : Nat)

def isSpace (u : CodeUnit) : Bool :=
  u.val = 0x20 || u.val = 0x09 || u.val = 0x0a || u.val = 0x0d

/-- The units of names and of numbers. -/
def isWordUnit (u : CodeUnit) : Bool :=
  isDigit u || (97 ≤ u.val && u.val ≤ 122) || (65 ≤ u.val && u.val ≤ 90) || u = unit '+' ||
    u = unit '-' || u = unit '.'

def mark? (u : CodeUnit) : Option (Token ν) :=
  if u = unit '[' then some .openArray
  else if u = unit ']' then some .closeArray
  else if u = unit '\x7b' then some .openObject
  else if u = unit '\x7d' then some .closeObject
  else if u = unit ',' then some .comma
  else if u = unit ':' then some .colon
  else none

/-- The first unit of a token. -/
def startToken (u : CodeUnit) : List (Token ν) × Mode :=
  if isSpace u then ([], .blank)
  else if u = unit '"' then ([], .string [])
  else if isWordUnit u then ([], .word [u])
  else ([(mark? u).getD .invalid], .blank)

/-- A name or a number. -/
def wordToken (literal : Utf16 → ν) (s : Utf16) : Token ν :=
  if s = ofString "null" then .null
  else if s = ofString "true" then .bool true
  else if s = ofString "false" then .bool false
  else if isNumber s then .number (literal s)
  else .invalid

/-- The unit of a short escape. -/
def unescape (letter : CodeUnit) : Option CodeUnit :=
  if letter = unit 'b' then some 0x08
  else if letter = unit 't' then some 0x09
  else if letter = unit 'n' then some 0x0a
  else if letter = unit 'f' then some 0x0c
  else if letter = unit 'r' then some 0x0d
  else if letter = unit '"' ∨ letter = unit '\\' ∨ letter = unit '/' then some letter
  else none

def hexValue (u : CodeUnit) : Option Nat :=
  if 48 ≤ u.val ∧ u.val ≤ 57 then some (u.val - 48)
  else if 97 ≤ u.val ∧ u.val ≤ 102 then some (u.val - 87)
  else if 65 ≤ u.val ∧ u.val ≤ 70 then some (u.val - 55)
  else none

def nextUnit (literal : Utf16 → ν) : Mode → CodeUnit → List (Token ν) × Mode
  | .blank, u => startToken u
  | .word read, u =>
    if isWordUnit u then ([], .word (read ++ [u]))
    else (wordToken literal read :: (startToken u).1, (startToken (ν := ν) u).2)
  | .string read, u =>
    if u = unit '"' then ([.string read], .blank)
    else if u = unit '\\' then ([], .escape read)
    else if u.val < 0x20 then ([.invalid], .blank)
    else ([], .string (read ++ [u]))
  | .escape read, u =>
    if u = unit 'u' then ([], .hex read 4 0)
    else match unescape u with
      | some v => ([], .string (read ++ [v]))
      | none => ([.invalid], .blank)
  | .hex read missing value, u =>
    match hexValue u with
    | some d =>
      if missing ≤ 1 then ([], .string (read ++ [Fin.ofNat 0x10000 (value * 16 + d)]))
      else ([], .hex read (missing - 1) (value * 16 + d))
    | none => ([.invalid], .blank)

def lastToken (literal : Utf16 → ν) : Mode → List (Token ν)
  | .blank => []
  | .word read => [wordToken literal read]
  | _ => [.invalid]

/-- The tokens of a text. -/
def lexer (literal : Utf16 → ν) : Transducer Mode CodeUnit (Token ν) where
  feed := nextUnit literal
  finish := lastToken literal

/-! ## The parser -/

/-- An array or an object that is open: the items before this one, or the fields before this one
and the key of this one. -/
inductive Frame (ν : Type)
  | item (items : List (Json ν))
  | field (fields : List (Utf16 × Json ν)) (key : Utf16)

/-- What the parser expects next; `done` is after a value. -/
inductive Expected (ν : Type)
  | value (stack : List (Frame ν))
  | firstItem (stack : List (Frame ν))
  | firstKey (stack : List (Frame ν))
  | key (fields : List (Utf16 × Json ν)) (stack : List (Frame ν))
  | colon (fields : List (Utf16 × Json ν)) (key : Utf16) (stack : List (Frame ν))
  | done (v : Json ν) (stack : List (Frame ν))

/-- A field is set once, or its value is replaced. -/
def setField (key : Utf16) (v : Json ν) : List (Utf16 × Json ν) → List (Utf16 × Json ν)
  | [] => [(key, v)]
  | f :: fields => if f.1 = key then (key, v) :: fields else f :: setField key v fields

/-- The first token of a value. -/
def parseValue (stack : List (Frame ν)) : Token ν → Option (Expected ν)
  | .null => some (.done .null stack)
  | .bool b => some (.done (.bool b) stack)
  | .number n => some (.done (.number n) stack)
  | .string s => some (.done (.string s) stack)
  | .openArray => some (.firstItem stack)
  | .openObject => some (.firstKey stack)
  | _ => none

def parseToken : Expected ν → Token ν → Option (Expected ν)
  | .value stack, t => parseValue stack t
  | .firstItem stack, .closeArray => some (.done (.array []) stack)
  | .firstItem stack, t => parseValue (.item [] :: stack) t
  | .firstKey stack, .closeObject => some (.done (.object []) stack)
  | .firstKey stack, .string key => some (.colon [] key stack)
  | .key fields stack, .string key => some (.colon fields key stack)
  | .colon fields key stack, .colon => some (.value (.field fields key :: stack))
  | .done v (.item items :: stack), .comma => some (.value (.item (items ++ [v]) :: stack))
  | .done v (.item items :: stack), .closeArray => some (.done (.array (items ++ [v])) stack)
  | .done v (.field fields key :: stack), .comma => some (.key (setField key v fields) stack)
  | .done v (.field fields key :: stack), .closeObject =>
    some (.done (.object (setField key v fields)) stack)
  | _, _ => none

/-- The value of a text, if it is one. -/
def parse (literal : Utf16 → ν) (s : Utf16) : Option (Json ν) := do
  let expected ← ((lexer literal).run .blank s).foldlM parseToken (.value [])
  match expected with
  | .done v [] => some v
  | _ => none

/-! ## Reading a string -/

section

variable {literal : Utf16 → ν}

theorem lexer_feed (m : Mode) (u : CodeUnit) :
    (lexer literal).feed m u = nextUnit literal m u := rfl

/-- A unit that ends or escapes nothing. -/
theorem reads_plain {read : Utf16} {u : CodeUnit} (hquote : u ≠ unit '"') (hslash : u ≠ unit '\\')
    (hlarge : ¬u.val < 0x20) :
    (lexer literal).Reads (.string read) [u] [] (.string (read ++ [u])) := by
  apply Transducer.Reads.single
  simp only [lexer_feed, nextUnit, hquote, hslash, hlarge, if_false]

theorem reads_escape (read : Utf16) :
    (lexer literal).Reads (.string read) [unit '\\'] [] (.escape read) :=
  Transducer.Reads.single rfl

/-- The letter of a short escape is read as the unit. -/
theorem unescape_shortEscape {u letter : CodeUnit} (h : shortEscape u = some letter) :
    letter ≠ unit 'u' ∧ unescape letter = some u := by
  have hval : ∀ n, n < 0x10000 → u.val = n → u = Fin.ofNat 0x10000 n :=
    fun n hn hu => Fin.ext (hu.trans (Nat.mod_eq_of_lt hn).symm)
  unfold shortEscape at h
  split_ifs at h with h1 h2 h3 h4 h5 h6
  · obtain rfl := Option.some.inj h
    rw [hval _ (by decide) h1]
    decide
  · obtain rfl := Option.some.inj h
    rw [hval _ (by decide) h2]
    decide
  · obtain rfl := Option.some.inj h
    rw [hval _ (by decide) h3]
    decide
  · obtain rfl := Option.some.inj h
    rw [hval _ (by decide) h4]
    decide
  · obtain rfl := Option.some.inj h
    rw [hval _ (by decide) h5]
    decide
  · obtain rfl := Option.some.inj h
    rcases h6 with h6 | h6
    · rw [hval _ (by decide) h6]
      decide
    · rw [hval _ (by decide) h6]
      decide

theorem hexValue_hexUnit (n : Nat) : hexValue (hexUnit n) = some (n % 16) := by
  have h : ∀ m : Fin 16, hexValue (unit (Nat.digitChar m)) = some m.val := by decide
  exact h ⟨n % 16, Nat.mod_lt n (by decide)⟩

/-- Four hexadecimal digits are read as the unit they are the digits of. -/
theorem reads_hex (read : Utf16) (u : CodeUnit) :
    (lexer literal).Reads (.hex read 4 0)
      [hexUnit (u.val / 0x1000), hexUnit (u.val / 0x100), hexUnit (u.val / 0x10), hexUnit u.val] []
      (.string (read ++ [u])) := by
  have hu := u.isLt
  have hvalue : Fin.ofNat 0x10000
      ((((0 * 16 + u.val / 0x1000 % 16) * 16 + u.val / 0x100 % 16) * 16 +
        u.val / 0x10 % 16) * 16 + u.val % 16) = u := by
    apply Fin.ext
    show _ % 0x10000 = _
    omega
  have hdigit (missing value n : Nat) (hmissing : ¬missing ≤ 1) :
      (lexer literal).feed (.hex read missing value) (hexUnit n) =
        ([], .hex read (missing - 1) (value * 16 + n % 16)) := by
    simp only [lexer_feed, nextUnit, hexValue_hexUnit, hmissing, if_false]
  refine .skip (hdigit 4 _ _ (by decide)) ?_
  refine .skip (hdigit 3 _ _ (by decide)) ?_
  refine .skip (hdigit 2 _ _ (by decide)) ?_
  refine .single ?_
  simp only [lexer_feed, nextUnit, hexValue_hexUnit, Nat.le_refl, if_true, Nat.reduceSub, hvalue]

theorem reads_quoteUnit (read : Utf16) (u : CodeUnit) :
    (lexer literal).Reads (.string read) (quoteUnit u) [] (.string (read ++ [u])) := by
  unfold quoteUnit
  cases hshort : shortEscape u with
  | some letter =>
    obtain ⟨hletter, hunescape⟩ := unescape_shortEscape hshort
    refine (reads_escape read).append (.single ?_)
    simp only [lexer_feed, nextUnit, hletter, if_false, hunescape]
  | none =>
    by_cases hescape : u.val < 0x20 ∨ u.IsHigh ∨ u.IsLow
    · simp only [hescape, if_true]
      refine (reads_escape read).append (.skip ?_ (reads_hex read u))
      simp only [lexer_feed, nextUnit, if_true]
    · simp only [hescape, if_false]
      have hquote : u ≠ unit '"' := by
        rintro rfl
        cases hshort
      have hslash : u ≠ unit '\\' := by
        rintro rfl
        cases hshort
      exact reads_plain hquote hslash (not_or.mp hescape).1

theorem reads_escaped (read s : Utf16) :
    (lexer literal).Reads (.string read) (escaped s) [] (.string (read ++ s)) := by
  induction s using escaped.induct generalizing read with
  | case1 =>
    rw [List.append_nil]
    exact .nil _
  | case2 u => exact reads_quoteUnit read u
  | case3 u v us hpair ih =>
    have hplain : ∀ (read : Utf16) (w : CodeUnit), 0xd800 ≤ w.val →
        (lexer literal).Reads (.string read) [w] [] (.string (read ++ [w])) := by
      intro read w hw
      apply reads_plain
      · rintro rfl
        revert hw
        decide
      · rintro rfl
        revert hw
        decide
      · omega
    have hhigh := hpair.1.1
    have hlow := hpair.2.1
    have h := (hplain read u hhigh).append
      ((hplain _ v (by omega)).append (ih (read ++ [u] ++ [v])))
    rw [escaped, if_pos hpair]
    simpa only [List.append_assoc, List.singleton_append, List.cons_append, List.nil_append] using h
  | case4 u v us hpair ih =>
    have h := (reads_quoteUnit read u).append (ih (read ++ [u]))
    rw [escaped, if_neg hpair]
    simpa only [List.append_assoc, List.singleton_append, List.nil_append] using h

/-- **A string in quotes is one token.** -/
theorem reads_quote (s : Utf16) :
    (lexer literal).Reads .blank (quote s) [.string s] .blank := by
  have hopen : (lexer literal).feed .blank (unit '"') = ([], .string []) := rfl
  have hclose : (lexer literal).feed (.string s) (unit '"') = ([.string s], .blank) := by
    simp only [lexer_feed, nextUnit, if_true]
  have h := (@reads_escaped _ literal [] s).append (Transducer.Reads.single hclose)
  exact .cons hopen h

end

/-! ## Pieces of a text -/

/-- The last token may be open. -/
def Mode.Settled : Mode → Prop
  | .blank => True
  | .word _ => True
  | _ => False

/-- The tokens of a piece of text, the last one up to its end. -/
def Scans (literal : Utf16 → ν) (s : Utf16) (ts : List (Token ν)) : Prop :=
  ∃ (m : Mode) (written : List (Token ν)), (lexer literal).Reads .blank s written m ∧ m.Settled ∧
    written ++ lastToken literal m = ts

section

variable {literal : Utf16 → ν}

theorem Scans.of_reads {s : Utf16} {ts : List (Token ν)}
    (h : (lexer literal).Reads .blank s ts .blank) : Scans literal s ts :=
  ⟨.blank, ts, h, trivial, List.append_nil ts⟩

theorem Scans.run {s : Utf16} {ts : List (Token ν)} (h : Scans literal s ts) :
    (lexer literal).run .blank s = ts := by
  obtain ⟨m, written, hread, -, rfl⟩ := h
  exact hread.run

theorem Scans.after {s s' : Utf16} {ts ts' : List (Token ν)}
    (h : (lexer literal).Reads .blank s ts .blank) (h' : Scans literal s' ts') :
    Scans literal (s ++ s') (ts ++ ts') := by
  obtain ⟨m, written, hread, hm, rfl⟩ := h'
  exact ⟨m, ts ++ written, h.append hread, hm, List.append_assoc ..⟩

/-- A mark ends the token before it. -/
theorem Scans.mark {s : Utf16} {ts : List (Token ν)} (h : Scans literal s ts) {u : CodeUnit}
    {t : Token ν} (hword : isWordUnit u = false) (hu : startToken u = ([t], .blank)) :
    (lexer literal).Reads .blank (s ++ [u]) (ts ++ [t]) .blank := by
  obtain ⟨m, written, hread, hm, rfl⟩ := h
  rw [List.append_assoc]
  apply hread.append
  apply Transducer.Reads.single
  cases m with
  | blank => exact hu
  | word read =>
    rw [lexer_feed, nextUnit, hword, if_neg Bool.false_ne_true, hu]
    rfl
  | _ => cases hm

theorem reads_word {read s : Utf16} (hs : ∀ u ∈ s, isWordUnit u = true) :
    (lexer literal).Reads (.word read) s [] (.word (read ++ s)) := by
  induction s generalizing read with
  | nil =>
    rw [List.append_nil]
    exact .nil _
  | cons u s ih =>
    obtain ⟨hu, hs⟩ := List.forall_mem_cons.mp hs
    have hfeed : (lexer literal).feed (.word read) u = ([], .word (read ++ [u])) := by
      rw [lexer_feed, nextUnit, if_pos hu]
    have h := Transducer.Reads.cons hfeed (ih hs)
    simpa only [List.append_assoc, List.singleton_append, List.nil_append] using h

theorem le_of_isWordUnit {u : CodeUnit} (hu : isWordUnit u = true) : 43 ≤ u.val := by
  have hsign : ∀ c, u = unit c → 43 ≤ (unit c).val → 43 ≤ u.val := by
    rintro c rfl h
    exact h
  simp only [isWordUnit, isDigit, Bool.or_eq_true, Bool.and_eq_true, decide_eq_true_eq] at hu
  rcases hu with ((((hu | hu) | hu) | hu) | hu) | hu
  · omega
  · omega
  · omega
  · exact hsign _ hu (by decide)
  · exact hsign _ hu (by decide)
  · exact hsign _ hu (by decide)

theorem startToken_word {u : CodeUnit} (hu : isWordUnit u = true) :
    startToken (ν := ν) u = ([], .word [u]) := by
  have hlarge := le_of_isWordUnit hu
  have hspace : isSpace u = false := by
    simp only [isSpace, Bool.or_eq_false_iff, decide_eq_false_iff_not]
    omega
  have hquote : u ≠ unit '"' := by
    rintro rfl
    revert hlarge
    decide
  rw [startToken, hspace, if_neg Bool.false_ne_true, if_neg hquote, if_pos hu]

/-- **A run of letters, digits and signs is one token.** -/
theorem scans_word {s : Utf16} (hne : s ≠ []) (hs : ∀ u ∈ s, isWordUnit u = true) :
    Scans literal s [wordToken literal s] := by
  cases s with
  | nil => exact absurd rfl hne
  | cons u s =>
    obtain ⟨hu, hs⟩ := List.forall_mem_cons.mp hs
    have hstart : (lexer literal).feed .blank u = ([], .word [u]) := startToken_word hu
    exact ⟨.word (u :: s), [], .cons hstart (reads_word hs), trivial, rfl⟩

end

/-! ## Number literals -/

def IsWord (s : Utf16) : Prop := ∀ u ∈ s, isWordUnit u = true

theorem isWordUnit_of_isDigit {u : CodeUnit} (h : isDigit u = true) : isWordUnit u = true := by
  simp only [isWordUnit, h, Bool.true_or]

theorem isWord_digits {s : Utf16} (h : s.all isDigit = true) : IsWord s :=
  fun u hu => isWordUnit_of_isDigit (List.all_eq_true.mp h u hu)

/-- Digits, and then a word. -/
theorem isWord_of_dropWhile {s : Utf16} (h : IsWord (s.dropWhile isDigit)) : IsWord s := by
  intro u hu
  rw [← List.takeWhile_append_dropWhile (p := isDigit) (l := s)] at hu
  rcases List.mem_append.mp hu with hu | hu
  · exact isWordUnit_of_isDigit (List.mem_takeWhile_imp hu)
  · exact h u hu

theorem isWord_of_isExponent {s : Utf16} (h : isExponent s = true) : IsWord s := by
  cases s with
  | nil => exact fun _ hu => absurd hu List.not_mem_nil
  | cons e s =>
    simp only [isExponent, Bool.and_eq_true, Bool.or_eq_true, decide_eq_true_eq] at h
    obtain ⟨⟨he, -⟩, hdigits⟩ := h
    refine List.forall_mem_cons.mpr ⟨?_, ?_⟩
    · rcases he with rfl | rfl <;> decide
    · cases s with
      | nil => exact fun _ hu => absurd hu List.not_mem_nil
      | cons sign ds =>
        simp only at hdigits
        split_ifs at hdigits with hsign
        · refine List.forall_mem_cons.mpr ⟨?_, isWord_digits hdigits⟩
          rcases hsign with rfl | rfl <;> decide
        · exact isWord_digits hdigits

theorem isWord_of_isFraction {s : Utf16} (h : isFraction s = true) : IsWord s := by
  cases s with
  | nil => exact fun _ hu => absurd hu List.not_mem_nil
  | cons u s =>
    rw [isFraction] at h
    split_ifs at h with hu
    · refine List.forall_mem_cons.mpr ⟨?_, ?_⟩
      · rw [hu]
        decide
      · rw [Bool.and_eq_true] at h
        exact isWord_of_dropWhile (isWord_of_isExponent h.2)
    · exact isWord_of_isExponent h

theorem isWord_of_isUnsigned {s : Utf16} (h : isUnsigned s = true) : IsWord s := by
  simp only [isUnsigned, Bool.and_eq_true] at h
  exact isWord_of_dropWhile (isWord_of_isFraction h.2)

theorem isWord_of_isNumber {s : Utf16} (h : isNumber s = true) : IsWord s := by
  cases s with
  | nil => exact fun _ hu => absurd hu List.not_mem_nil
  | cons u s =>
    rw [isNumber] at h
    split_ifs at h with hu
    · refine List.forall_mem_cons.mpr ⟨?_, isWord_of_isUnsigned h⟩
      rw [hu]
      decide
    · exact isWord_of_isUnsigned h

theorem wordToken_number {literal : Utf16 → ν} {s : Utf16} (h : isNumber s = true) :
    wordToken literal s = .number (literal s) := by
  have hname : ∀ name, isNumber (ofString name) = false → s ≠ ofString name := by
    rintro name hname rfl
    exact Bool.false_ne_true (hname.symm.trans h)
  rw [wordToken, if_neg (hname _ (by decide)), if_neg (hname _ (by decide)),
    if_neg (hname _ (by decide)), if_pos h]

/-! ## The tokens of a value -/

/-- The tokens of a field, by those of its value. -/
def fieldTokens (field : Utf16 × List (Token ν)) : List (Token ν) :=
  .string field.1 :: .colon :: field.2

def tokenizer : Algebra ν (List (Token ν)) where
  null := [.null]
  bool b := [.bool b]
  number n := [.number n]
  string s := [.string s]
  array items := .openArray :: ([.comma].intercalate items ++ [.closeArray])
  object fields := .openObject :: ([.comma].intercalate (fields.map fieldTokens) ++ [.closeObject])

def tokens : Json ν → List (Token ν) := fold tokenizer

theorem tokens_array (items : List (Json ν)) :
    tokens (.array items) =
      .openArray :: ([.comma].intercalate (items.map tokens) ++ [.closeArray]) :=
  fold_array _ items

theorem tokens_object (fields : List (Utf16 × Json ν)) :
    tokens (.object fields) = .openObject ::
      ([.comma].intercalate (fields.map fun f => fieldTokens (f.1, tokens f.2)) ++
        [.closeObject]) := by
  unfold tokens
  rw [fold_object]
  show _ :: ([Token.comma].intercalate
    ((fields.map (onValues (fold tokenizer))).map fieldTokens) ++ _) = _
  rw [List.map_map]
  rfl

section

variable {literal : Utf16 → ν}

theorem scans_commas {α : Type} {text : α → Utf16} {toks : α → List (Token ν)} {xs : List α}
    (h : ∀ x ∈ xs, Scans literal (text x) (toks x)) :
    Scans literal (commas (xs.map text)) ([.comma].intercalate (xs.map toks)) := by
  induction xs with
  | nil => exact .of_reads (.nil _)
  | cons x xs ih =>
    obtain ⟨hx, hxs⟩ := List.forall_mem_cons.mp h
    cases xs with
    | nil =>
      simp only [List.map_cons, List.map_nil, commas_singleton, List.intercalate_singleton]
      exact hx
    | cons y xs =>
      have hmark := hx.mark (u := unit ',') (t := .comma) (by decide) rfl
      simp only [List.map_cons, commas_cons_cons, List.intercalate_cons_cons] at ih ⊢
      exact .after hmark (ih hxs)

/-- **The text of a value makes the tokens of the value.** -/
theorem scans_write {text : ξ → Utf16} {Q : List Utf16 → Prop} {v : Json ξ}
    (hv : v.Forall (fun n => isNumber (text n) = true) Q) :
    Scans literal (write text v) (tokens (map (fun n => literal (text n)) v)) := by
  have hname (name : String) (hne : ofString name ≠ [])
      (hword : (ofString name).all isWordUnit = true) :
      Scans literal (ofString name) [wordToken literal (ofString name)] :=
    scans_word hne (List.all_eq_true.mp hword)
  induction hv with
  | null => exact hname "null" (by decide) (by decide)
  | bool b =>
    cases b with
    | true => exact hname "true" (by decide) (by decide)
    | false => exact hname "false" (by decide) (by decide)
  | @number n h =>
    show Scans literal (text n) [.number (literal (text n))]
    rw [← wordToken_number h]
    refine scans_word ?_ (isWord_of_isNumber h)
    intro hnil
    rw [hnil] at h
    cases h
  | string s => exact .of_reads (reads_quote s)
  | @array items _ ih =>
    have hopen : (lexer literal).Reads .blank [unit '['] [.openArray] .blank := .single rfl
    have hitems := scans_commas ih
    have hclose := hitems.mark (u := unit ']') (t := .closeArray) (by decide) rfl
    rw [write_array, map_array, tokens_array, List.map_map]
    exact .of_reads (hopen.append hclose)
  | @object fields _ _ ih =>
    have hopen : (lexer literal).Reads .blank [unit '\x7b'] [.openObject] .blank := .single rfl
    have hfields : Scans literal (commas (fields.map fun f => writeField (f.1, write text f.2)))
        ([.comma].intercalate (fields.map fun f =>
          fieldTokens (f.1, tokens (map (fun n => literal (text n)) f.2)))) := by
      apply scans_commas
      intro f hf
      have hkey := Scans.mark (.of_reads (@reads_quote _ literal f.1)) (u := unit ':')
        (t := .colon) (by decide) rfl
      have h := Scans.after hkey (ih f hf)
      rw [List.append_assoc] at h
      exact h
    have hclose := hfields.mark (u := unit '\x7d') (t := .closeObject) (by decide) rfl
    rw [write_object, map_object, tokens_object, List.map_map]
    exact .of_reads (hopen.append hclose)

end

/-! ## Parsing the tokens -/

theorem setField_of_not_mem {key : Utf16} {v : Json ν} {fields : List (Utf16 × Json ν)}
    (h : key ∉ fields.map Prod.fst) : setField key v fields = fields ++ [(key, v)] := by
  induction fields with
  | nil => rfl
  | cons f fields ih =>
    rw [List.map_cons, List.mem_cons, not_or] at h
    rw [setField, if_neg (Ne.symm h.1), ih h.2, List.cons_append]

/-- Every object has distinct keys. -/
def Distinct (v : Json ν) : Prop := v.Forall (fun _ => True) List.Nodup

/-- Before the first item of an array a value may come. -/
theorem parse_firstItem (v : Json ν) (stack : List (Frame ν)) :
    (tokens v).foldlM parseToken (.firstItem stack) =
      (tokens v).foldlM parseToken (.value (.item [] :: stack)) := by
  cases v with
  | array items =>
    rw [tokens_array]
    rfl
  | object fields =>
    rw [tokens_object]
    rfl
  | _ => rfl

/-- The tokens of the items that are left, and the end of the array. -/
theorem parse_items {items : List (Json ν)} (hne : items ≠ [])
    (ih : ∀ v ∈ items, ∀ stack, (tokens v).foldlM parseToken (.value stack) = some (.done v stack))
    (read : List (Json ν)) (stack : List (Frame ν)) (start : Expected ν)
    (hstart : ∀ v, (tokens v).foldlM parseToken start =
      (tokens v).foldlM parseToken (.value (.item read :: stack))) :
    List.foldlM parseToken start ([.comma].intercalate (items.map tokens) ++ [.closeArray]) =
      some (.done (.array (read ++ items)) stack) := by
  induction items generalizing read start with
  | nil => exact absurd rfl hne
  | cons v items ihItems =>
    obtain ⟨hv, hitems⟩ := List.forall_mem_cons.mp ih
    have hitem : (tokens v).foldlM parseToken start = some (.done v (.item read :: stack)) :=
      (hstart v).trans (hv _)
    cases items with
    | nil =>
      rw [List.map_cons, List.map_nil, List.intercalate_singleton, List.foldlM_append, hitem]
      rfl
    | cons w items =>
      have hrest := ihItems (List.cons_ne_nil _ _) hitems (read ++ [v])
        (.value (.item (read ++ [v]) :: stack)) fun _ => rfl
      rw [List.append_assoc, List.singleton_append] at hrest
      simp only [List.map_cons, List.intercalate_cons_cons] at hrest ⊢
      rw [List.append_assoc, List.append_assoc, List.foldlM_append, hitem]
      exact hrest

/-- The tokens of the fields that are left, and the end of the object. -/
theorem parse_fields {fields : List (Utf16 × Json ν)} (hne : fields ≠ [])
    (ih : ∀ f ∈ fields, ∀ stack,
      (tokens f.2).foldlM parseToken (.value stack) = some (.done f.2 stack))
    (read : List (Utf16 × Json ν)) (stack : List (Frame ν))
    (hnodup : ((read ++ fields).map Prod.fst).Nodup) (start : Expected ν)
    (hstart : ∀ key, parseToken start (.string key) = some (.colon read key stack)) :
    List.foldlM parseToken start
        ([.comma].intercalate (fields.map fun f => fieldTokens (f.1, tokens f.2)) ++
          [.closeObject]) =
      some (.done (.object (read ++ fields)) stack) := by
  induction fields generalizing read start with
  | nil => exact absurd rfl hne
  | cons f fields ihFields =>
    obtain ⟨hf, hfields⟩ := List.forall_mem_cons.mp ih
    have hfresh : f.1 ∉ read.map Prod.fst := by
      rw [List.map_append, List.nodup_append] at hnodup
      intro hmem
      exact hnodup.2.2 f.1 hmem f.1 (List.mem_map_of_mem List.mem_cons_self) rfl
    have hset : setField f.1 f.2 read = read ++ [f] := setField_of_not_mem hfresh
    have hfield : (fieldTokens (f.1, tokens f.2)).foldlM parseToken start =
        some (.done f.2 (.field read f.1 :: stack)) := by
      rw [fieldTokens, List.foldlM_cons, hstart]
      exact hf (.field read f.1 :: stack)
    cases fields with
    | nil =>
      rw [List.map_cons, List.map_nil, List.intercalate_singleton, List.foldlM_append, hfield,
        ← hset]
      rfl
    | cons g fields =>
      have hrest := ihFields (List.cons_ne_nil _ _) hfields (read ++ [f])
        (by rwa [List.append_assoc]) (.key (read ++ [f]) stack) fun _ => rfl
      rw [List.append_assoc, List.singleton_append, ← hset] at hrest
      simp only [List.map_cons, List.intercalate_cons_cons] at hrest ⊢
      rw [List.append_assoc, List.append_assoc, List.foldlM_append, hfield]
      exact hrest

/-- **The tokens of a value lead to the value.** -/
theorem parse_tokens {v : Json ν} (hv : v.Distinct) (stack : List (Frame ν)) :
    (tokens v).foldlM parseToken (.value stack) = some (.done v stack) := by
  induction hv generalizing stack with
  | null => rfl
  | bool => rfl
  | number => rfl
  | string => rfl
  | @array items _ ih =>
    rw [tokens_array]
    cases items with
    | nil => rfl
    | cons v items =>
      exact parse_items (List.cons_ne_nil v items) ih [] stack (.firstItem stack)
        fun w => parse_firstItem w stack
  | @object fields hkeys _ ih =>
    rw [tokens_object]
    cases fields with
    | nil => rfl
    | cons f fields =>
      exact parse_fields (List.cons_ne_nil f fields) ih [] stack hkeys (.firstKey stack)
        fun _ => rfl

/-- **The text of a value is read as the value**, with the numbers of their texts. -/
theorem parse_write {text : ξ → Utf16} (literal : Utf16 → ν) {v : Json ξ}
    (hv : v.Forall (fun n => isNumber (text n) = true) List.Nodup) :
    parse literal (write text v) = some (map (fun n => literal (text n)) v) := by
  have hdistinct : (map (fun n => literal (text n)) v).Distinct := hv.map fun _ _ => trivial
  unfold parse
  rw [(scans_write hv).run, parse_tokens hdistinct []]
  rfl

end Json

end Lib
