import IdpSaas.Lib.Double
import Mathlib.Data.List.Basic

/-!
JSON texts. The reader takes a text character by character, with the arrays and objects
that are open on a stack; the writer puts no space between tokens, and what it writes is
read back as it was. How a script writes a number that is not whole is a parameter.
-/

open Numeral

inductive JsonValue
  | null
  | bool (b : Bool)
  | number (n : Number)
  | string (s : String)
  | array (items : List JsonValue)
  | object (members : List (String × JsonValue))

namespace JsonValue

/-- The member of a name; of several, the last one counts. -/
def field (name : String) : JsonValue → Option JsonValue
  | .object members => (members.reverse.find? fun m => m.1 == name).map Prod.snd
  | _ => none

section Reading

/-- What a string consists of: characters, and units of UTF-16 that were escaped. -/
inductive Piece
  | char (c : Char)
  | unit (n : Nat)

/-- A surrogate that stands alone becomes U+FFFD. -/
def unitChar (n : Nat) : Char :=
  if 0xD800 ≤ n ∧ n ≤ 0xDFFF then '\uFFFD' else Char.ofNat n

/-- The text of a string, with two surrogates taken together. -/
def spell : List Piece → List Char
  | [] => []
  | .char c :: ps => c :: spell ps
  | .unit high :: .unit low :: ps =>
      if (0xD800 ≤ high ∧ high ≤ 0xDBFF) ∧ 0xDC00 ≤ low ∧ low ≤ 0xDFFF then
        Char.ofNat (0x10000 + 0x400 * (high - 0xD800) + (low - 0xDC00)) :: spell ps
      else unitChar high :: spell (.unit low :: ps)
  | .unit n :: ps => unitChar n :: spell ps

/-- How far an escape has been read: up to the backslash, or so many digits. -/
inductive Escape
  | none
  | begun
  | hex (count value : Nat)

/-- What comes next, or the token that is being read. -/
inductive Mode
  | value
  | item
  | name (first : Bool)
  | colon
  | after
  | done (v : JsonValue)
  | string (name : Bool) (pieces : List Piece) (escape : Escape)
  | number (text : List Char)
  | word (text : List Char)

/-- An array or object that is open, with the name of the member being read. -/
inductive Frame
  | array (items : List JsonValue)
  | object (members : List (String × JsonValue)) (name : String)

structure Parser where
  mode : Mode
  stack : List Frame

def close (v : JsonValue) : List Frame → Parser
  | [] => ⟨.done v, []⟩
  | .array items :: stack => ⟨.after, .array (items ++ [v]) :: stack⟩
  | .object members name :: stack => ⟨.after, .object (members ++ [(name, v)]) name :: stack⟩

def isBlank (c : Char) : Bool := [' ', '\t', '\n', '\r'].contains c

def begin (stack : List Frame) (c : Char) : Option Parser :=
  if c = '"' then some ⟨.string false [] .none, stack⟩
  else if c = '[' then some ⟨.item, .array [] :: stack⟩
  else if c = '\x7b' then some ⟨.name true, .object [] "" :: stack⟩
  else if c = '-' ∨ c.isDigit then some ⟨.number [c], stack⟩
  else if c = 't' ∨ c = 'f' ∨ c = 'n' then some ⟨.word [c], stack⟩
  else none

def between (c : Char) : Parser → Option Parser
  | ⟨.value, stack⟩ => begin stack c
  | ⟨.item, .array items :: stack⟩ =>
      if c = ']' then some (close (.array items) stack) else begin (.array items :: stack) c
  | ⟨.name first, .object members name :: stack⟩ =>
      if c = '"' then some ⟨.string true [] .none, .object members name :: stack⟩
      else if first ∧ c = '\x7d' then some (close (.object members) stack)
      else none
  | ⟨.colon, stack⟩ => if c = ':' then some ⟨.value, stack⟩ else none
  | ⟨.after, .array items :: stack⟩ =>
      if c = ',' then some ⟨.value, .array items :: stack⟩
      else if c = ']' then some (close (.array items) stack)
      else none
  | ⟨.after, .object members name :: stack⟩ =>
      if c = ',' then some ⟨.name false, .object members name :: stack⟩
      else if c = '\x7d' then some (close (.object members) stack)
      else none
  | _ => none

/-- A string has been read: a value, or the name of a member. -/
def endString (name : Bool) (text : String) (stack : List Frame) : Option Parser :=
  match name, stack with
  | false, stack => some (close (.string text) stack)
  | true, .object members _ :: stack => some ⟨.colon, .object members text :: stack⟩
  | true, _ => none

/-- The character that an escape stands for. -/
def unescape (c : Char) : Option Char :=
  match c with
  | '"' | '\\' | '/' => some c
  | 'b' => some '\x08'
  | 'f' => some '\x0c'
  | 'n' => some '\n'
  | 'r' => some '\r'
  | 't' => some '\t'
  | _ => none

def hexDigit (c : Char) : Option Nat :=
  if c.isDigit then some (c.toNat - 48)
  else if 'a' ≤ c ∧ c ≤ 'f' then some (c.toNat - 87)
  else if 'A' ≤ c ∧ c ≤ 'F' then some (c.toNat - 55)
  else none

def inString (name : Bool) (pieces : List Piece) (escape : Escape) (stack : List Frame)
    (c : Char) : Option Parser :=
  match escape with
  | .none =>
      if c = '"' then endString name (String.ofList (spell pieces)) stack
      else if c = '\\' then some ⟨.string name pieces .begun, stack⟩
      else if c.toNat < 0x20 then none
      else some ⟨.string name (pieces ++ [.char c]) .none, stack⟩
  | .begun =>
      if c = 'u' then some ⟨.string name pieces (.hex 0 0), stack⟩
      else (unescape c).map fun d => ⟨.string name (pieces ++ [.char d]) .none, stack⟩
  | .hex count value =>
      (hexDigit c).map fun d =>
        if count = 3 then ⟨.string name (pieces ++ [.unit (16 * value + d)]) .none, stack⟩
        else ⟨.string name pieces (.hex (count + 1) (16 * value + d)), stack⟩

/-- No leading zero, digits on both sides of a point, and no plus before the number. -/
def readNumber (text : List Char) : Option Number :=
  match scan text with
  | some (d, []) =>
      if text.head? ≠ some '+' ∧ d.whole ≠ [] ∧
          (d.whole.length = 1 ∨ d.whole.head?.map Fin.val ≠ some 0) ∧
          ('.' ∈ text → d.fraction ≠ []) then
        some (Double.nearest d.value)
      else none
  | _ => none

def readWord (text : List Char) : Option JsonValue :=
  if text = "null".toList then some .null
  else if text = "true".toList then some (.bool true)
  else if text = "false".toList then some (.bool false)
  else none

def inNumber (c : Char) : Bool := c.isDigit || ['+', '-', '.', 'e', 'E'].contains c

def settle (p : Parser) : Option Parser :=
  match p.mode with
  | .number text => (readNumber text).map fun n => close (.number n) p.stack
  | .word text => (readWord text).map fun v => close v p.stack
  | _ => some p

def step (p : Parser) (c : Char) : Option Parser :=
  match p.mode with
  | .string name pieces escape => inString name pieces escape p.stack c
  | .number text =>
      if inNumber c then some { p with mode := .number (text ++ [c]) }
      else (settle p).bind fun p => if isBlank c then some p else between c p
  | .word text =>
      if c.isLower then some { p with mode := .word (text ++ [c]) }
      else (settle p).bind fun p => if isBlank c then some p else between c p
  | _ => if isBlank c then some p else between c p

def finish (p : Parser) : Option JsonValue :=
  match settle p with
  | some ⟨.done v, _⟩ => some v
  | _ => none

/-- `JSON.parse`; none where it throws. -/
def parse (s : String) : Option JsonValue :=
  (s.toList.foldlM step ⟨.value, []⟩).bind finish

end Reading

section Writing

/-- How a script writes finite numbers; small whole ones in decimal digits. -/
structure Format where
  text : Rat → List Char
  decimal : ∀ n : Nat, n < 2 ^ 53 → text n = Nat.toDigits 10 n

/-- The digits of whole numbers. -/
def Format.digits : Format := ⟨fun q => Nat.toDigits 10 q.num.toNat, fun _ _ => rfl⟩

def Format.json (format : Format) : Number → List Char
  | .finite q => format.text q
  | .nan | .infinity _ => "null".toList

def quoteChar (c : Char) : List Char :=
  if c = '"' ∨ c = '\\' then ['\\', c]
  else if c = '\x08' then ['\\', 'b']
  else if c = '\t' then ['\\', 't']
  else if c = '\n' then ['\\', 'n']
  else if c = '\x0c' then ['\\', 'f']
  else if c = '\r' then ['\\', 'r']
  else if c.toNat < 0x20 then
    ['\\', 'u', '0', '0', Nat.digitChar (c.toNat / 16), Nat.digitChar (c.toNat % 16)]
  else [c]

def quote (s : String) : List Char := '"' :: (s.toList.flatMap quoteChar ++ ['"'])

mutual

def write (format : Format) : JsonValue → List Char
  | .null => "null".toList
  | .bool b => if b then "true".toList else "false".toList
  | .number n => format.json n
  | .string s => quote s
  | .array [] => ['[', ']']
  | .array (v :: vs) => '[' :: (write format v ++ writeItems format vs)
  | .object [] => ['\x7b', '\x7d']
  | .object ((name, v) :: ms) =>
      '\x7b' :: (quote name ++ ':' :: (write format v ++ writeMembers format ms))

/-- What follows an item, up to the end of the array. -/
def writeItems (format : Format) : List JsonValue → List Char
  | [] => [']']
  | v :: vs => ',' :: (write format v ++ writeItems format vs)

/-- What follows a member, up to the end of the object. -/
def writeMembers (format : Format) : List (String × JsonValue) → List Char
  | [] => ['\x7d']
  | (name, v) :: ms => ',' :: (quote name ++ ':' :: (write format v ++ writeMembers format ms))

end

/-- `JSON.stringify` of a value without undefined parts. -/
def stringify (format : Format) (v : JsonValue) : String := String.ofList (write format v)

mutual

/-- `String(value)`; none where it throws. An object that has a `toString` of its own, which
cannot be called, has no text. -/
def toText (format : Format) : JsonValue → Option String
  | .null => some "null"
  | .bool b => some (if b then "true" else "false")
  | .number (.finite q) => some (String.ofList (format.text q))
  | .number .nan => some "NaN"
  | .number (.infinity negative) => some (if negative then "-Infinity" else "Infinity")
  | .string s => some s
  | .array items => (itemTexts format items).map (",".intercalate ·)
  | .object members =>
      if members.any fun m => m.1 == "toString" then none else some "[object Object]"

def itemTexts (format : Format) : List JsonValue → Option (List String)
  | [] => some []
  | .null :: vs => (itemTexts format vs).map ("" :: ·)
  | v :: vs => (toText format v).bind fun text => (itemTexts format vs).map (text :: ·)

end

/-- An object, whose undefined fields are left out when it is written. -/
def ofFields (fields : List (String × Option JsonValue)) : JsonValue :=
  .object (fields.filterMap fun f => f.2.map fun v => (f.1, v))

/-- All numbers in the value are whole and below `2 ^ 53`. -/
inductive Plain : JsonValue → Prop
  | null : Plain .null
  | bool (b : Bool) : Plain (.bool b)
  | number {n : Nat} (small : n < 2 ^ 53) : Plain (.number (.finite n))
  | string (s : String) : Plain (.string s)
  | array {items : List JsonValue} (plain : ∀ v ∈ items, Plain v) : Plain (.array items)
  | object {members : List (String × JsonValue)} (plain : ∀ m ∈ members, Plain m.2) :
      Plain (.object members)

attribute [simp] Plain.string

@[simp] theorem plain_array_iff {items : List JsonValue} :
    Plain (.array items) ↔ ∀ v ∈ items, Plain v := by
  constructor
  · intro plain
    cases plain with
    | array plain => exact plain
  · exact .array

@[simp] theorem plain_object_iff {members : List (String × JsonValue)} :
    Plain (.object members) ↔ ∀ m ∈ members, Plain m.2 := by
  constructor
  · intro plain
    cases plain with
    | object plain => exact plain
  · exact .object

end Writing

section RoundTrip

def feed (p : Parser) (s : List Char) : Option Parser := s.foldlM step p

theorem feed_cons (p : Parser) (c : Char) (s : List Char) :
    feed p (c :: s) = (step p c).bind fun q => feed q s := rfl

theorem feed_append (p : Parser) (s t : List Char) :
    feed p (s ++ t) = (feed p s).bind fun q => feed q t := List.foldlM_append

theorem settle_close (v : JsonValue) (stack : List Frame) :
    settle (close v stack) = some (close v stack) := by
  rw [close.eq_def]
  split <;> rfl

/-- A character of a string, in the piece it is written as. -/
def piece (c : Char) : Piece :=
  if c.toNat < 0x20 ∧ ['\x08', '\t', '\n', '\x0c', '\r'].contains c = false then .unit c.toNat
  else .char c

theorem hexDigit_digitChar {n : Nat} (h : n < 16) : hexDigit (Nat.digitChar n) = some n := by
  have all : ∀ n : Fin 16, hexDigit (Nat.digitChar n) = some n.val := by decide
  exact all ⟨n, h⟩

theorem step_hex {name : Bool} {pieces : List Piece} {stack : List Frame} {count value d : Nat}
    {c : Char} (h : hexDigit c = some d) :
    step ⟨.string name pieces (.hex count value), stack⟩ c =
      some (if count = 3 then ⟨.string name (pieces ++ [.unit (16 * value + d)]) .none, stack⟩
        else ⟨.string name pieces (.hex (count + 1) (16 * value + d)), stack⟩) := by
  change inString name pieces (.hex count value) stack c = _
  rw [inString, h]
  rfl

theorem feed_quoteChar (name : Bool) (pieces : List Piece) (stack : List Frame) (c : Char) :
    feed ⟨.string name pieces .none, stack⟩ (quoteChar c) =
      some ⟨.string name (pieces ++ [piece c]) .none, stack⟩ := by
  by_cases named : ['"', '\\', '\x08', '\t', '\n', '\x0c', '\r'].contains c
  · simp only [List.contains_iff_mem, List.mem_cons, List.not_mem_nil, or_false] at named
    rcases named with rfl | rfl | rfl | rfl | rfl | rfl | rfl <;> rfl
  · simp only [List.contains_iff_mem, List.mem_cons, List.not_mem_nil, or_false, not_or] at named
    obtain ⟨quotes, backslash, b, t, n, f, r⟩ := named
    rw [quoteChar, if_neg (not_or.mpr ⟨quotes, backslash⟩), if_neg b, if_neg t, if_neg n, if_neg f,
      if_neg r]
    by_cases control : c.toNat < 0x20
    · have escaped : piece c = .unit c.toNat := if_pos ⟨control, by simp [b, t, n, f, r]⟩
      have high := hexDigit_digitChar (show c.toNat / 16 < 16 by omega)
      have low := hexDigit_digitChar (show c.toNat % 16 < 16 by omega)
      have value : 16 * (16 * 0 + c.toNat / 16) + c.toNat % 16 = c.toNat := by omega
      have begun : feed ⟨.string name pieces .none, stack⟩ ['\\', 'u', '0', '0'] =
          some ⟨.string name pieces (.hex 2 0), stack⟩ := rfl
      rw [if_pos control, escaped,
        show ∀ x y, ['\\', 'u', '0', '0', x, y] = ['\\', 'u', '0', '0'] ++ [x, y] from fun _ _ => rfl,
        feed_append, begun, Option.bind_some, feed_cons, step_hex high, if_neg (by decide),
        Option.bind_some, feed_cons, step_hex low, if_pos rfl, value]
      rfl
    · have kept : piece c = .char c := if_neg fun h => control h.1
      rw [if_neg control, kept, feed_cons, step]
      simp only [inString, if_neg quotes, if_neg backslash, if_neg control]
      rfl

theorem feed_flatMap_quoteChar (name : Bool) (pieces : List Piece) (stack : List Frame)
    (s : List Char) :
    feed ⟨.string name pieces .none, stack⟩ (s.flatMap quoteChar) =
      some ⟨.string name (pieces ++ s.map piece) .none, stack⟩ := by
  induction s generalizing pieces with
  | nil => rw [List.map_nil, List.append_nil]; rfl
  | cons c s ih =>
      rw [List.flatMap_cons, feed_append, feed_quoteChar, Option.bind_some, ih, List.map_cons,
        List.append_assoc, List.singleton_append]

theorem unitChar_toNat {c : Char} (low : c.toNat < 0x20) : unitChar c.toNat = c := by
  rw [unitChar, if_neg (by omega), Char.ofNat_toNat]

theorem spell_map_piece (s : List Char) : spell (s.map piece) = s := by
  induction s with
  | nil => rfl
  | cons c s ih =>
      rw [List.map_cons]
      by_cases control : c.toNat < 0x20 ∧ ['\x08', '\t', '\n', '\x0c', '\r'].contains c = false
      · have escaped : piece c = .unit c.toNat := if_pos control
        rw [escaped]
        have alone : spell (.unit c.toNat :: s.map piece) = unitChar c.toNat :: spell (s.map piece) := by
          cases s.map piece with
          | nil => rfl
          | cons p ps =>
              cases p with
              | char d => rfl
              | unit m => rw [spell, if_neg (by omega)]
        rw [alone, ih, unitChar_toNat control.1]
      · have kept : piece c = .char c := if_neg control
        rw [kept, spell, ih]

theorem readNumber_toDigits {n : Nat} (small : n < 2 ^ 53) :
    readNumber (Nat.toDigits 10 n) = some (.finite n) := by
  have digit : ∀ c ∈ Nat.toDigits 10 n, c.isDigit = true := fun _ => isDigit_of_mem_toDigits
  have absent : ∀ c, c.isDigit = false → c ∉ Nat.toDigits 10 n := by
    intro c other mem
    rw [digit c mem] at other
    cases other
  have unsigned : (Nat.toDigits 10 n).head? ≠ some '+' := fun first =>
    absent '+' (by decide) (List.mem_of_mem_head? first)
  have leading : ((Nat.toDigits 10 n).map Numeral.digit).length = 1 ∨
      ((Nat.toDigits 10 n).map Numeral.digit).head?.map Fin.val ≠ some 0 := by
    cases n with
    | zero => exact Or.inl rfl
    | succ n =>
        refine Or.inr fun first => head_toDigits n.succ_pos ?_
        obtain ⟨d, head, zero⟩ := Option.map_eq_some_iff.mp first
        exact head.trans (congrArg some (Fin.ext zero))
  have value : Numeral.value ⟨false, (Nat.toDigits 10 n).map Numeral.digit, [], 0⟩ = n := by
    simp [Numeral.value, magnitude, signed, number_toDigits]
  rw [readNumber, scan_digits digit Nat.toDigits_ne_nil]
  dsimp only
  rw [if_pos, value, Double.nearest_natCast small]
  exact ⟨unsigned, fun empty => Nat.toDigits_ne_nil (List.map_eq_nil_iff.mp empty), leading,
    fun point => absurd point (absent '.' (by decide))⟩

/-- A value may begin: anything but a blank or the end of an array is its first character. -/
def Opens (p : Parser) : Prop := ∀ c, c ≠ ']' → isBlank c = false → step p c = begin p.stack c

theorem opens_value (stack : List Frame) : Opens ⟨.value, stack⟩ := by
  intro c _ dark
  change (if isBlank c then _ else between c ⟨.value, stack⟩) = _
  rw [dark, if_neg Bool.false_ne_true]
  rfl

theorem opens_item (items : List JsonValue) (stack : List Frame) :
    Opens ⟨.item, .array items :: stack⟩ := by
  intro c ends dark
  change (if isBlank c then _ else between c ⟨.item, .array items :: stack⟩) = _
  rw [dark, if_neg Bool.false_ne_true, between, if_neg ends]

/-- After a value, a character that no number and no word goes on with. -/
theorem step_after {q : Parser} {stack : List Frame} (h : settle q = some ⟨.after, stack⟩)
    {c : Char} (delimiter : c = ',' ∨ c = ']' ∨ c = '\x7d') :
    step q c = between c ⟨.after, stack⟩ := by
  have apart : inNumber c = false ∧ c.isLower = false ∧ isBlank c = false := by
    rcases delimiter with rfl | rfl | rfl <;> decide
  obtain ⟨mode, qs⟩ := q
  cases mode with
  | string name pieces escape => cases h
  | number text =>
      simp only [step, apart, h, Option.bind_some, if_neg Bool.false_ne_true]
  | word text =>
      simp only [step, apart, h, Option.bind_some, if_neg Bool.false_ne_true]
  | value | item | name first | colon | done v => cases h
  | after =>
      cases h
      change (if isBlank c then _ else _) = _
      rw [apart.2.2, if_neg Bool.false_ne_true]

section Values
variable {format : Format}

/-- What is written for the value is read as the value, wherever one may begin. -/
def Feeds (format : Format) (v : JsonValue) : Prop :=
  ∀ p, Opens p → ∃ q, feed p (write format v) = some q ∧ settle q = some (close v p.stack)

theorem feed_word (stack : List Frame) (text : List Char) {s : List Char}
    (lower : ∀ c ∈ s, c.isLower = true) :
    feed ⟨.word text, stack⟩ s = some ⟨.word (text ++ s), stack⟩ := by
  induction s generalizing text with
  | nil => rw [List.append_nil]; rfl
  | cons c s ih =>
      have goes : step ⟨.word text, stack⟩ c = some ⟨.word (text ++ [c]), stack⟩ :=
        if_pos (lower c List.mem_cons_self)
      rw [feed_cons, goes, Option.bind_some, ih _ fun d hd => lower d (List.mem_cons_of_mem _ hd),
        List.append_assoc, List.singleton_append]

theorem feed_number (stack : List Frame) (text : List Char) {s : List Char}
    (goesOn : ∀ c ∈ s, inNumber c = true) :
    feed ⟨.number text, stack⟩ s = some ⟨.number (text ++ s), stack⟩ := by
  induction s generalizing text with
  | nil => rw [List.append_nil]; rfl
  | cons c s ih =>
      have goes : step ⟨.number text, stack⟩ c = some ⟨.number (text ++ [c]), stack⟩ :=
        if_pos (goesOn c List.mem_cons_self)
      rw [feed_cons, goes, Option.bind_some, ih _ fun d hd => goesOn d (List.mem_cons_of_mem _ hd),
        List.append_assoc, List.singleton_append]

theorem feeds_word {v : JsonValue} {c : Char} {s : List Char} (written : write format v = c :: s)
    (first : c = 't' ∨ c = 'f' ∨ c = 'n') (lower : s.all Char.isLower = true)
    (read : readWord (c :: s) = some v) : Feeds format v := by
  intro p opens
  have begun : step p c = some ⟨.word [c], p.stack⟩ := by
    rcases first with rfl | rfl | rfl <;> exact opens _ (by decide) (by decide)
  refine ⟨⟨.word (c :: s), p.stack⟩, ?_, ?_⟩
  · rw [written, feed_cons, begun, Option.bind_some, feed_word _ _ (List.all_eq_true.mp lower)]
    rfl
  · exact congrArg (Option.map fun v => close v p.stack) read

theorem feeds_number {n : Nat} (small : n < 2 ^ 53) : Feeds format (.number (.finite n)) := by
  intro p opens
  have digit : ∀ c ∈ Nat.toDigits 10 n, c.isDigit = true := fun _ => isDigit_of_mem_toDigits
  have read := readNumber_toDigits small
  obtain ⟨c, s, written⟩ := List.exists_cons_of_ne_nil (Nat.toDigits_ne_nil (n := n) (b := 10))
  rw [written] at digit read
  have first : c.isDigit = true := digit c List.mem_cons_self
  have begun : step p c = some ⟨.number [c], p.stack⟩ := by
    have other : ∀ d, d.isDigit = false → c ≠ d := by
      rintro d no rfl
      rw [first] at no
      cases no
    have dark : isBlank c = false := by
      simp [isBlank, other ' ' rfl, other '\t' rfl, other '\n' rfl, other '\r' rfl]
    rw [opens c (other ']' rfl) dark, begin, if_neg (other '"' rfl), if_neg (other '[' rfl),
      if_neg (other '\x7b' rfl), if_pos (Or.inr first)]
  refine ⟨⟨.number (c :: s), p.stack⟩, ?_, ?_⟩
  · rw [write, Format.json, format.decimal n small, written, feed_cons, begun, Option.bind_some, feed_number]
    · rfl
    · intro d hd
      rw [inNumber, digit d (List.mem_cons_of_mem _ hd), Bool.true_or]
  · exact congrArg (Option.map fun n => close (.number n) p.stack) read

theorem feed_quote (name : Bool) (stack : List Frame) (s : String) :
    feed ⟨.string name [] .none, stack⟩ (s.toList.flatMap quoteChar ++ ['"']) =
      endString name s stack := by
  rw [feed_append, feed_flatMap_quoteChar, Option.bind_some, List.nil_append, feed_cons]
  change (endString name (String.ofList (spell (s.toList.map piece))) stack).bind _ = _
  rw [spell_map_piece, String.ofList_toList]
  exact Option.bind_fun_some _

theorem feeds_string (s : String) : Feeds format (.string s) := by
  intro p opens
  refine ⟨close (.string s) p.stack, ?_, settle_close _ _⟩
  have begun : step p '"' = some ⟨.string false [] .none, p.stack⟩ :=
    opens '"' (by decide) (by decide)
  rw [write, quote, feed_cons, begun, Option.bind_some, feed_quote]
  rfl

theorem feed_items {vs : List JsonValue} (feeds : ∀ v ∈ vs, Feeds format v)
    (items : List JsonValue) (stack : List Frame) {q : Parser}
    (h : settle q = some ⟨.after, .array items :: stack⟩) :
    feed q (writeItems format vs) = some (close (.array (items ++ vs)) stack) := by
  induction vs generalizing items q with
  | nil =>
      rw [writeItems, feed_cons, step_after h (Or.inr (Or.inl rfl)), List.append_nil]
      rfl
  | cons v vs ih =>
      obtain ⟨q', read, settled⟩ := feeds v List.mem_cons_self ⟨.value, .array items :: stack⟩
        (opens_value _)
      have comma : step q ',' = some ⟨.value, .array items :: stack⟩ :=
        step_after h (Or.inl rfl)
      rw [writeItems, feed_cons, comma, Option.bind_some, feed_append, read, Option.bind_some,
        ih (fun w hw => feeds w (List.mem_cons_of_mem _ hw)) (items ++ [v]) settled,
        List.append_assoc, List.singleton_append]

theorem feed_name (first : Bool) (members : List (String × JsonValue)) (name last : String)
    (stack : List Frame) (s : List Char) :
    feed ⟨.name first, .object members last :: stack⟩ (quote name ++ ':' :: s) =
      feed ⟨.value, .object members name :: stack⟩ s := by
  have begun : step ⟨.name first, .object members last :: stack⟩ '"' =
      some ⟨.string true [] .none, .object members last :: stack⟩ := rfl
  have colon : step ⟨.colon, .object members name :: stack⟩ ':' =
      some ⟨.value, .object members name :: stack⟩ := rfl
  rw [quote, List.cons_append, feed_cons, begun, Option.bind_some, feed_append, feed_quote,
    endString, Option.bind_some, feed_cons, colon, Option.bind_some]

theorem feed_members {ms : List (String × JsonValue)} (feeds : ∀ m ∈ ms, Feeds format m.2)
    (members : List (String × JsonValue)) (last : String) (stack : List Frame) {q : Parser}
    (h : settle q = some ⟨.after, .object members last :: stack⟩) :
    feed q (writeMembers format ms) = some (close (.object (members ++ ms)) stack) := by
  induction ms generalizing members last q with
  | nil =>
      rw [writeMembers, feed_cons, step_after h (Or.inr (Or.inr rfl)), List.append_nil]
      rfl
  | cons m ms ih =>
      obtain ⟨name, v⟩ := m
      obtain ⟨q', read, settled⟩ := feeds _ List.mem_cons_self
        ⟨.value, .object members name :: stack⟩ (opens_value _)
      have comma : step q ',' = some ⟨.name false, .object members last :: stack⟩ :=
        step_after h (Or.inl rfl)
      rw [writeMembers, feed_cons, comma, Option.bind_some, feed_name, feed_append, read,
        Option.bind_some,
        ih (fun w hw => feeds w (List.mem_cons_of_mem _ hw)) (members ++ [(name, v)]) name settled,
        List.append_assoc, List.singleton_append]

theorem feeds_array {items : List JsonValue} (feeds : ∀ v ∈ items, Feeds format v) :
    Feeds format (.array items) := by
  intro p opens
  refine ⟨close (.array items) p.stack, ?_, settle_close _ _⟩
  have begun : step p '[' = some ⟨.item, .array [] :: p.stack⟩ := opens '[' (by decide) (by decide)
  cases items with
  | nil =>
      rw [write, feed_cons, begun]
      rfl
  | cons v vs =>
      obtain ⟨q, read, settled⟩ := feeds v List.mem_cons_self _ (opens_item [] p.stack)
      rw [write, feed_cons, begun, Option.bind_some, feed_append, read, Option.bind_some,
        feed_items (fun w hw => feeds w (List.mem_cons_of_mem _ hw)) [v] p.stack settled]
      rfl

theorem feeds_object {members : List (String × JsonValue)}
    (feeds : ∀ m ∈ members, Feeds format m.2) : Feeds format (.object members) := by
  intro p opens
  refine ⟨close (.object members) p.stack, ?_, settle_close _ _⟩
  have begun : step p '\x7b' = some ⟨.name true, .object [] "" :: p.stack⟩ :=
    opens '\x7b' (by decide) (by decide)
  cases members with
  | nil =>
      rw [write, feed_cons, begun]
      rfl
  | cons m ms =>
      obtain ⟨name, v⟩ := m
      obtain ⟨q, read, settled⟩ := feeds _ List.mem_cons_self
        ⟨.value, .object [] name :: p.stack⟩ (opens_value _)
      rw [write, feed_cons, begun, Option.bind_some, feed_name, feed_append, read, Option.bind_some,
        feed_members (fun w hw => feeds w (List.mem_cons_of_mem _ hw)) [(name, v)] name p.stack
          settled]
      rfl

theorem feeds_of_plain {v : JsonValue} (plain : v.Plain) :
    Feeds format v := by
  induction plain with
  | null => exact feeds_word rfl (by decide) (by decide) rfl
  | bool b => cases b <;> exact feeds_word rfl (by decide) (by decide) rfl
  | number small => exact feeds_number small
  | string s => exact feeds_string s
  | array _ ih => exact feeds_array ih
  | object _ ih => exact feeds_object ih

/-- A value with plain numbers is read back from its text. -/
theorem parse_stringify {v : JsonValue} (plain : v.Plain) :
    parse (stringify format v) = some v := by
  obtain ⟨q, read, settled⟩ := feeds_of_plain plain _ (opens_value [])
  change (feed _ (String.ofList (write format v)).toList).bind finish = _
  rw [String.toList_ofList, read, Option.bind_some, finish, settled]
  rfl

end Values
end RoundTrip
end JsonValue
