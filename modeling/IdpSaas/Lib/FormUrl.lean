import Mathlib.Data.List.TakeWhile

/-!
Form-urlencoded texts, as queries are written: names and values are UTF-8, in which a
byte is a safe character, a plus for a blank, or an escape of two hexadecimal digits.
A reader gets back what has been written.
-/

namespace FormUrl

def hexUpper (n : Nat) : Char := if n < 10 then Char.ofNat (48 + n) else Char.ofNat (55 + n)

def hexValue (c : Char) : Option Nat :=
  if '0' ≤ c ∧ c ≤ '9' then some (c.toNat - 48)
  else if 'A' ≤ c ∧ c ≤ 'F' then some (c.toNat - 55)
  else if 'a' ≤ c ∧ c ≤ 'f' then some (c.toNat - 87)
  else none

def utf8 (s : String) : List UInt8 := s.toByteArray.data.toList

/-- Letters and digits, and four marks, are written as they are. -/
def safe (c : Char) : Bool := c.isAlphanum || c == '*' || c == '-' || c == '.' || c == '_'

def writeByte (b : UInt8) : List Char :=
  if b = 32 then ['+']
  else if b < 128 ∧ safe (Char.ofNat b.toNat) = true then [Char.ofNat b.toNat]
  else ['%', hexUpper (b.toNat / 16), hexUpper (b.toNat % 16)]

def write (s : String) : List Char := (utf8 s).flatMap writeByte

/-- `URLSearchParams.toString`. -/
def serialize (pairs : List (String × String)) : List Char :=
  ['&'].intercalate (pairs.map fun p => write p.1 ++ '=' :: write p.2)

/-- The bytes that a text stands for; none where an escape is broken. -/
def readBytes : List Char → Option (List UInt8)
  | [] => some []
  | c :: s =>
      if c = '%' then
        match s with
        | h :: l :: s =>
            match hexValue h, hexValue l with
            | some h, some l => (readBytes s).map (UInt8.ofNat (16 * h + l) :: ·)
            | _, _ => none
        | _ => none
      else if c = '+' then (readBytes s).map (32 :: ·)
      else (readBytes s).map (utf8 (String.singleton c) ++ ·)

/-- Texts that are not made of escaped UTF-8 are read by `lossy`. -/
def read (lossy : List Char → String) (s : List Char) : String :=
  match (readBytes s).bind fun bytes => String.fromUTF8? ⟨bytes.toArray⟩ with
  | some text => text
  | none => lossy s

/-- `querystring.parse`, before values of one name are put together. -/
def parse (lossy : List Char → String) (s : List Char) : List (String × String) :=
  ((s.splitOn '&').filter fun piece => !piece.isEmpty).map fun piece =>
    (read lossy (piece.takeWhile fun c => c ≠ '='),
      read lossy ((piece.dropWhile fun c => c ≠ '=').drop 1))

section Bytes

theorem forall_byte {P : UInt8 → Prop} (h : ∀ n : Fin 256, P (.ofFin n)) (b : UInt8) : P b :=
  h b.toFin

theorem readBytes_char {c : Char} (unescaped : c ≠ '%') (s : List Char) :
    readBytes (c :: s) =
      (readBytes s).map ((if c = '+' then [32] else utf8 (String.singleton c)) ++ ·) := by
  rw [readBytes.eq_def]
  by_cases plus : c = '+'
  · simp [plus]
  · simp [unescaped, plus]

theorem writeByte_separators (b : UInt8) : '&' ∉ writeByte b ∧ '=' ∉ writeByte b :=
  forall_byte (P := fun b => '&' ∉ writeByte b ∧ '=' ∉ writeByte b) (by decide +kernel) b

theorem writeByte_safe (b : UInt8) (plain : b < 128 ∧ safe (Char.ofNat b.toNat) = true) :
    Char.ofNat b.toNat ≠ '%' ∧ Char.ofNat b.toNat ≠ '+' ∧
      utf8 (String.singleton (Char.ofNat b.toNat)) = [b] := by
  revert plain
  refine forall_byte (P := fun b => b < 128 ∧ safe (Char.ofNat b.toNat) = true →
    Char.ofNat b.toNat ≠ '%' ∧ Char.ofNat b.toNat ≠ '+' ∧
      utf8 (String.singleton (Char.ofNat b.toNat)) = [b]) ?_ b
  decide +kernel

theorem hexValue_upper {n : Nat} (h : n < 16) : hexValue (hexUpper n) = some n := by
  have all : ∀ n < 16, hexValue (hexUpper n) = some n := by decide +kernel
  exact all n h

theorem readBytes_writeByte (b : UInt8) (s : List Char) :
    readBytes (writeByte b ++ s) = (readBytes s).map (b :: ·) := by
  rw [writeByte]
  split
  · next blank =>
      rw [blank, List.singleton_append, readBytes_char (by decide), if_pos rfl]
      rfl
  · split
    · next plain =>
        obtain ⟨percent, plus, bytes⟩ := writeByte_safe b plain
        rw [List.singleton_append, readBytes_char percent, if_neg plus, bytes]
        rfl
    · have size := b.toNat_lt
      have high : hexValue (hexUpper (b.toNat / 16)) = some (b.toNat / 16) :=
        hexValue_upper (by omega)
      have low : hexValue (hexUpper (b.toNat % 16)) = some (b.toNat % 16) :=
        hexValue_upper (by omega)
      have whole : 16 * (b.toNat / 16) + b.toNat % 16 = b.toNat := Nat.div_add_mod _ _
      simp only [List.cons_append, List.nil_append, readBytes, if_true, high, low, whole,
        UInt8.ofNat_toNat]

end Bytes

theorem readBytes_write (bytes : List UInt8) :
    readBytes (bytes.flatMap writeByte) = some bytes := by
  induction bytes with
  | nil => rfl
  | cons b bytes ih => rw [List.flatMap_cons, readBytes_writeByte, ih, Option.map_some]

/-- What has been written is read back, whatever the text. -/
theorem read_write (lossy : List Char → String) (s : String) : read lossy (write s) = s := by
  have decoded : String.fromUTF8? ⟨(utf8 s).toArray⟩ = some s := by
    rw [utf8, Array.toArray_toList, String.fromUTF8?, dif_pos s.isValidUTF8]
    rfl
  rw [read, write, readBytes_write, Option.bind_some, decoded]

theorem not_mem_write (s : String) : '&' ∉ write s ∧ '=' ∉ write s := by
  simp only [write, List.mem_flatMap, not_exists, not_and]
  exact ⟨fun b _ => (writeByte_separators b).1, fun b _ => (writeByte_separators b).2⟩

theorem write_goesOn (name : String) : ∀ c ∈ write name, decide (c ≠ '=') = true := by
  intro c hc
  refine decide_eq_true fun same => ?_
  exact (not_mem_write name).2 (same ▸ hc)

theorem takeWhile_write (name value : String) :
    (write name ++ '=' :: write value).takeWhile (fun c => decide (c ≠ '=')) = write name := by
  rw [List.takeWhile_append_of_pos (write_goesOn name)]
  simp

theorem dropWhile_write (name value : String) :
    (write name ++ '=' :: write value).dropWhile (fun c => decide (c ≠ '=')) =
      '=' :: write value := by
  rw [List.dropWhile_append_of_pos (write_goesOn name)]
  simp

/-- What has been serialized is parsed again. -/
theorem parse_serialize (lossy : List Char → String) (pairs : List (String × String)) :
    parse lossy (serialize pairs) = pairs := by
  cases empty : pairs with
  | nil => rfl
  | cons p rest =>
      rw [← empty, parse, serialize, List.splitOn_intercalate]
      · have full : ∀ piece ∈ pairs.map (fun p => write p.1 ++ '=' :: write p.2),
            (!piece.isEmpty) = true := by
          intro piece h
          obtain ⟨q, -, rfl⟩ := List.mem_map.mp h
          simp
        rw [List.filter_eq_self.mpr full, List.map_map]
        refine List.map_id'' (fun q => ?_) pairs
        simp only [Function.comp_apply, takeWhile_write, dropWhile_write, List.drop_one,
          List.tail_cons, read_write]
      · intro piece h
        obtain ⟨q, -, rfl⟩ := List.mem_map.mp h
        simp [not_mem_write]
      · simp [empty]

end FormUrl
