import GdpRouter.Structs
import Mathlib.Data.Nat.Digits.Lemmas

/-! The header codec is third-party code, so it enters as a parameter. `Lawful`
lists what the framing relies on. `compactJson` writes the very text that the
derived serializer produces and reads back exactly such texts. A number that is
no `usize` is no length. -/
namespace GdpRouter

/-- `std::str::from_utf8` succeeds on these bytes. -/
def validUtf8 (bytes : Bytes) : Bool := (ByteArray.mk bytes.toArray).validateUTF8

/-- Valid bytes are the encoding of some text. -/
theorem validUtf8_iff {bytes : Bytes} :
    validUtf8 bytes = true ↔ ∃ chars : List Char, bytes = chars.flatMap String.utf8EncodeChar := by
  rw [validUtf8, ByteArray.validateUTF8_eq_true_iff]
  constructor
  · rintro ⟨chars, hBytes⟩
    refine ⟨chars, ?_⟩
    have hData := congrArg (fun bytes : ByteArray => bytes.data.toList) hBytes
    simpa [List.utf8Encode] using hData
  · rintro ⟨chars, rfl⟩
    refine ⟨chars, ?_⟩
    ext1
    simp [List.utf8Encode]

/-- Valid bytes after valid bytes are valid. -/
theorem validUtf8_append {first second : Bytes} (hFirst : validUtf8 first = true)
    (hSecond : validUtf8 second = true) : validUtf8 (first ++ second) = true := by
  unfold validUtf8 at *
  rw [ByteArray.validateUTF8_eq_true_iff] at *
  have hSplit : ByteArray.mk (first ++ second).toArray =
      ByteArray.mk first.toArray ++ ByteArray.mk second.toArray := by
    ext1
    simp
  rw [hSplit]
  exact hFirst.append hSecond

/-- A text can be cut after a character that ends within the next four bytes. -/
theorem exists_validUtf8_take {bytes : Bytes} (h : validUtf8 bytes = true) (n : Nat) :
    ∃ m, n ≤ m ∧ m ≤ n + 3 ∧ validUtf8 (bytes.take m) = true := by
  obtain ⟨chars, rfl⟩ := validUtf8_iff.mp h
  clear h
  induction chars generalizing n with
  | nil => exact ⟨n, le_rfl, Nat.le_add_right n 3, by simp; decide⟩
  | cons char chars ih =>
      have hSize : (String.utf8EncodeChar char).length = char.utf8Size :=
        String.length_utf8EncodeChar char
      have hPos := char.utf8Size_pos
      have hFour := char.utf8Size_le_four
      have hFirst : validUtf8 (String.utf8EncodeChar char) = true :=
        validUtf8_iff.mpr ⟨[char], by simp⟩
      rw [List.flatMap_cons]
      by_cases hZero : n = 0
      · subst hZero
        exact ⟨0, le_rfl, Nat.zero_le 3, by simp; decide⟩
      · by_cases hInside : n ≤ char.utf8Size
        · refine ⟨char.utf8Size, hInside, by omega, ?_⟩
          rw [← hSize, List.take_left]
          exact hFirst
        · obtain ⟨m, hFrom, hTo, hValid⟩ := ih (n - char.utf8Size)
          refine ⟨char.utf8Size + m, by omega, by omega, ?_⟩
          rw [← hSize, List.take_length_add_append]
          exact validUtf8_append hFirst hValid

/-- ASCII bytes are valid. -/
theorem validUtf8_of_ascii {bytes : Bytes} (h : ∀ byte ∈ bytes, byte < 128) :
    validUtf8 bytes = true := by
  have hCode : ∀ n < 128, validUtf8 [UInt8.ofNat n] = true := by decide +kernel
  have hSingle : ∀ byte : UInt8, byte < 128 → validUtf8 [byte] = true := by
    intro byte hByte
    simpa using hCode byte.toNat hByte
  induction bytes with
  | nil => decide
  | cons byte rest ih =>
      rw [← List.singleton_append]
      exact validUtf8_append (hSingle byte (h byte List.mem_cons_self))
        (ih fun other hOther => h other (List.mem_cons_of_mem _ hOther))

/-- `serde_json::to_string` and `serde_json::from_str` at the header type. -/
structure SerdeJson where
  toString : GDPPacketInTransit → Bytes
  fromStr : Bytes → Option GDPPacketInTransit

/-- A serialized header is UTF-8 text without a raw NUL, it parses back to the
header it came from, and no text cut short inside it parses at all. -/
structure SerdeJson.Lawful (serde : SerdeJson) : Prop where
  utf8 : ∀ header, validUtf8 (serde.toString header) = true
  no_nul : ∀ header, 0 ∉ serde.toString header
  fromStr_toString : ∀ header, serde.fromStr (serde.toString header) = some header
  fromStr_prefix : ∀ header text, text <+: serde.toString header →
    text ≠ serde.toString header → serde.fromStr text = none

/-- The empty text is no header, since it begins every serialized header. -/
theorem SerdeJson.Lawful.fromStr_nil {serde : SerdeJson} (hSerde : serde.Lawful) :
    serde.fromStr [] = none := by
  let first : GDPPacketInTransit := .announcing .noop (.ofBytes 0 0 0 0) []
  let second : GDPPacketInTransit := .announcing .forward (.ofBytes 0 0 0 0) []
  by_cases hFirst : serde.toString first = []
  · apply hSerde.fromStr_prefix second [] List.nil_prefix
    intro hSecond
    have hSame := hSerde.fromStr_toString second
    rw [← hSecond, ← hFirst, hSerde.fromStr_toString] at hSame
    exact absurd (Option.some.inj hSame) (by decide)
  · exact hSerde.fromStr_prefix first [] List.nil_prefix (Ne.symm hFirst)

/-- A serialized header is one JSON object, whose opening brace is its first byte
and no other. So no text that lacks the beginning of one parses. -/
def SerdeJson.SuffixFree (serde : SerdeJson) : Prop :=
  ∀ header text, text <:+ serde.toString header → text ≠ serde.toString header →
    serde.fromStr text = none

namespace CompactJson

def ascii (text : String) : Bytes := text.toUTF8.toList

def actionName : GdpAction → String
  | .noop => "Noop"
  | .forward => "Forward"
  | .advertise => "Advertise"
  | .ribGet => "RibGet"
  | .ribReply => "RibReply"
  | .nack => "Nack"
  | .control => "Control"

def actions : List GdpAction :=
  [.noop, .forward, .advertise, .ribGet, .ribReply, .nack, .control]

def digit (d : Nat) : UInt8 := UInt8.ofNat (48 + d)

def decimal (n : Nat) : Bytes :=
  if n = 0 then [48] else (Nat.digits 10 n).reverse.map digit

/-- Everything up to the opening bracket of the destination. -/
def opening (action : GdpAction) : Bytes :=
  ascii "\x7b\"action\":\"" ++ ascii (actionName action) ++ ascii "\",\"destination\":["

def lengthKey : Bytes := ascii "],\"length\":"

def comma : UInt8 := 44
def closingBrace : UInt8 := 125

/-- The text before its closing brace. -/
def body (header : GDPPacketInTransit) : Bytes :=
  opening header.action ++ decimal header.destination.bytes[0].toNat ++
    comma :: (decimal header.destination.bytes[1].toNat ++
    comma :: (decimal header.destination.bytes[2].toNat ++
    comma :: (decimal header.destination.bytes[3].toNat ++
    (lengthKey ++ decimal header.length))))

def text (header : GDPPacketInTransit) : Bytes := body header ++ [closingBrace]

def isDigit (byte : UInt8) : Bool := 48 ≤ byte && byte ≤ 57

/-- Read a maximal digit string and keep what follows it. -/
def number (bytes : Bytes) : Nat × Bytes :=
  (Nat.ofDigits 10 ((bytes.takeWhile isDigit).reverse.map fun byte => byte.toNat - 48),
    bytes.dropWhile isDigit)

/-- Read the fields in the order in which they are written. Punctuation is
skipped by its length only: `fromStr` compares the whole text afterwards. -/
def fields (bytes : Bytes) : Option GDPPacketInTransit := do
  let action ← actions.find? fun action => (opening action).isPrefixOf bytes
  let first := number (bytes.drop (opening action).length)
  let second := number (first.2.drop 1)
  let third := number (second.2.drop 1)
  let fourth := number (third.2.drop 1)
  let length := number (fourth.2.drop lengthKey.length)
  if hLength : length.1 < usizeSize then
    some ⟨action, ⟨#v[.ofNat first.1, .ofNat second.1, .ofNat third.1, .ofNat fourth.1]⟩,
      length.1, hLength⟩
  else none

def fromStr (bytes : Bytes) : Option GDPPacketInTransit :=
  (fields bytes).filter fun header => text header = bytes

end CompactJson

def compactJson : SerdeJson := ⟨CompactJson.text, CompactJson.fromStr⟩

namespace CompactJson

example : compactJson.toString (.announcing .forward (.ofBytes 1 2 3 4) [0, 0, 0, 0, 0]) =
    ascii "\x7b\"action\":\"Forward\",\"destination\":[1,2,3,4],\"length\":5\x7d" := by
  decide +kernel

/-- One more than the largest `usize`. -/
example : compactJson.fromStr (ascii
    "\x7b\"action\":\"Noop\",\"destination\":[1,2,3,4],\"length\":18446744073709551616\x7d") =
      none := by
  decide +kernel

theorem isDigit_digit {d : Nat} (h : d < 10) : isDigit (digit d) = true := by
  interval_cases d <;> decide

theorem digit_toNat {d : Nat} (h : d < 10) : (digit d).toNat - 48 = d := by
  interval_cases d <;> decide

/-- A number is written in digits only. -/
theorem isDigit_of_mem_decimal {n : Nat} {byte : UInt8} (h : byte ∈ decimal n) :
    isDigit byte = true := by
  unfold decimal at h
  split at h
  · rw [List.mem_singleton.mp h]
    decide
  · obtain ⟨d, hd, rfl⟩ := List.mem_map.mp h
    exact isDigit_digit (Nat.digits_lt_base (by omega) (List.mem_reverse.mp hd))

/-- The digits of a number give the number back. -/
theorem ofDigits_decimal (n : Nat) :
    Nat.ofDigits 10 ((decimal n).reverse.map fun byte => byte.toNat - 48) = n := by
  unfold decimal
  split
  · rename_i hZero
    subst hZero
    decide
  · rw [← List.map_reverse, List.reverse_reverse, List.map_map]
    have hDigits := calc
      (Nat.digits 10 n).map ((fun byte : UInt8 => byte.toNat - 48) ∘ digit)
        = (Nat.digits 10 n).map id :=
          List.map_congr_left fun d hd => digit_toNat (Nat.digits_lt_base (by decide) hd)
      _ = Nat.digits 10 n := List.map_id _
    rw [hDigits, Nat.ofDigits_digits]

/-- A number ends at the first byte that is no digit. -/
theorem number_decimal_append (n : Nat) {stop : UInt8} (rest : Bytes) (h : isDigit stop = false) :
    number (decimal n ++ stop :: rest) = (n, stop :: rest) := by
  have hAll : ∀ byte ∈ decimal n, isDigit byte = true := fun _ => isDigit_of_mem_decimal
  simp only [number, List.takeWhile_append_of_pos hAll, List.dropWhile_append_of_pos hAll,
    List.takeWhile_cons, List.dropWhile_cons, h, Bool.false_eq_true, ↓reduceIte, List.append_nil,
    ofDigits_decimal]

/-- The text up to the first number tells the action. -/
theorem opening_isPrefixOf (first second : GdpAction) (rest : Bytes) :
    (opening first).isPrefixOf (opening second ++ rest) = decide (first = second) := by
  rw [Bool.eq_iff_iff, List.isPrefixOf_iff_prefix, decide_eq_true_eq]
  constructor
  · intro h
    have hOrder : opening first <+: opening second ∨ opening second <+: opening first :=
      List.prefix_or_prefix_of_prefix h (List.prefix_append _ rest)
    revert hOrder
    cases first <;> cases second <;> decide +kernel
  · rintro rfl
    exact List.prefix_append _ rest

theorem find_opening (action : GdpAction) (rest : Bytes) :
    (actions.find? fun candidate => (opening candidate).isPrefixOf (opening action ++ rest)) =
      some action := by
  simp only [opening_isPrefixOf]
  cases action <;> decide

theorem text_eq (header : GDPPacketInTransit) :
    text header = opening header.action ++ (decimal header.destination.bytes[0].toNat ++
      comma :: (decimal header.destination.bytes[1].toNat ++
      comma :: (decimal header.destination.bytes[2].toNat ++
      comma :: (decimal header.destination.bytes[3].toNat ++
      (lengthKey ++ (decimal header.length ++ [closingBrace])))))) := by
  simp [text, body]

theorem lengthKey_eq : lengthKey = 93 :: lengthKey.tail := by decide +kernel

theorem vector_eta (bytes : Vector UInt8 4) :
    #v[bytes[0], bytes[1], bytes[2], bytes[3]] = bytes := by
  apply Vector.ext
  intro i hi
  match i, hi with
  | 0, _ | 1, _ | 2, _ | 3, _ => rfl

/-- The fields of a header are read back from its text. -/
theorem fields_text (header : GDPPacketInTransit) : fields (text header) = some header := by
  have hFourth : ∀ rest, number (decimal header.destination.bytes[3].toNat ++ (lengthKey ++ rest)) =
      (header.destination.bytes[3].toNat, lengthKey ++ rest) := by
    intro rest
    rw [lengthKey_eq]
    exact number_decimal_append _ _ (by decide)
  have hComma := fun n rest => number_decimal_append n rest (by decide : isDigit comma = false)
  have hBrace := fun n rest =>
    number_decimal_append n rest (by decide : isDigit closingBrace = false)
  rw [text_eq]
  simp only [fields, find_opening, List.drop_left, hComma, hBrace, hFourth, List.drop_one,
    List.tail_cons, Option.bind_eq_bind, Option.bind_some]
  rw [dif_pos header.length_lt]
  simp only [UInt8.ofNat_toNat, vector_eta]

theorem fromStr_text (header : GDPPacketInTransit) : fromStr (text header) = some header := by
  simp [fromStr, fields_text]

theorem isDigit_ne {byte : UInt8} (h : isDigit byte = true) :
    byte ≠ 0 ∧ byte ≠ closingBrace ∧ byte < 128 := by
  simp only [isDigit, Bool.and_eq_true, decide_eq_true_eq, UInt8.le_iff_toNat_le] at h
  refine ⟨?_, ?_, ?_⟩
  · rintro rfl
    exact absurd h.1 (by decide)
  · rintro rfl
    exact absurd h.2 (by decide)
  · rw [UInt8.lt_iff_toNat_lt]
    exact lt_of_le_of_lt h.2 (by decide)

/-- The closing brace ends the text and occurs nowhere else. -/
theorem body_bytes (header : GDPPacketInTransit) :
    ∀ byte ∈ body header, byte ≠ 0 ∧ byte ≠ closingBrace ∧ byte < 128 := by
  have hOpening : ∀ action, ∀ byte ∈ opening action,
      byte ≠ 0 ∧ byte ≠ closingBrace ∧ byte < 128 := by
    intro action
    cases action <;> decide +kernel
  have hKey : ∀ byte ∈ lengthKey, byte ≠ 0 ∧ byte ≠ closingBrace ∧ byte < 128 := by
    decide +kernel
  have hComma : comma ≠ 0 ∧ comma ≠ closingBrace ∧ comma < 128 := by decide
  have hDecimal : ∀ n, ∀ byte ∈ decimal n, byte ≠ 0 ∧ byte ≠ closingBrace ∧ byte < 128 :=
    fun n byte h => isDigit_ne (isDigit_of_mem_decimal h)
  intro byte hByte
  simp only [body, List.mem_append, List.mem_cons] at hByte
  rcases hByte with (h | h) | rfl | h | rfl | h | rfl | h | h | h
  all_goals first | exact hComma | exact hOpening _ _ h | exact hDecimal _ _ h | exact hKey _ h

/-- Only the text of a header is accepted as that header. -/
theorem fromStr_eq_some {bytes : Bytes} {header : GDPPacketInTransit}
    (h : fromStr bytes = some header) : text header = bytes := by
  simp only [fromStr, Option.filter_eq_some_iff, decide_eq_true_eq] at h
  exact h.2

/-- No text of a header that is cut short is accepted. -/
theorem fromStr_prefix (header : GDPPacketInTransit) (bytes : Bytes) (h : bytes <+: text header)
    (hNe : bytes ≠ text header) : fromStr bytes = none := by
  rw [Option.eq_none_iff_forall_ne_some]
  intro other hOther
  have hText := fromStr_eq_some hOther
  -- A proper prefix lies inside the body, so it cannot end in the closing brace.
  have hBody : bytes <+: body header := by
    have hLength : bytes.length < (text header).length :=
      lt_of_le_of_ne h.length_le fun hLength => hNe (h.eq_of_length hLength)
    apply List.prefix_of_prefix_length_le h (List.prefix_append _ _)
    simp only [text, List.length_append, List.length_singleton] at hLength
    omega
  have hMem : closingBrace ∈ bytes := by
    rw [← hText, text]
    exact List.mem_append_right _ List.mem_cons_self
  exact (body_bytes header closingBrace (hBody.subset hMem)).2.1 rfl

def openingBrace : UInt8 := 123

theorem opening_eq (action : GdpAction) :
    opening action = openingBrace :: (opening action).tail ∧
      openingBrace ∉ (opening action).tail := by
  cases action <;> decide +kernel

/-- The opening brace begins the text and occurs nowhere else. -/
theorem text_eq_cons (header : GDPPacketInTransit) :
    ∃ rest, text header = openingBrace :: rest ∧ openingBrace ∉ rest := by
  obtain ⟨hOpening, hTail⟩ := opening_eq header.action
  have hDecimal : ∀ n, openingBrace ∉ decimal n := by
    intro n hMem
    exact absurd (isDigit_of_mem_decimal hMem) (by decide)
  have hKey : openingBrace ∉ lengthKey ∧ openingBrace ≠ comma ∧ openingBrace ≠ closingBrace := by
    decide +kernel
  rw [text_eq, hOpening, List.cons_append]
  refine ⟨_, rfl, ?_⟩
  simp only [List.mem_append, List.mem_cons, List.not_mem_nil, hTail, hDecimal, hKey, or_self,
    not_false_eq_true]

/-- No text of a header that lacks its beginning is accepted. -/
theorem fromStr_suffix (header : GDPPacketInTransit) (bytes : Bytes) (h : bytes <:+ text header)
    (hNe : bytes ≠ text header) : fromStr bytes = none := by
  rw [Option.eq_none_iff_forall_ne_some]
  intro other hOther
  obtain ⟨rest, hText, hRest⟩ := text_eq_cons header
  obtain ⟨_, hOtherText, _⟩ := text_eq_cons other
  rw [fromStr_eq_some hOther] at hOtherText
  rw [hText] at h hNe
  have hTail : bytes <:+ rest := (List.suffix_cons_iff.mp h).resolve_left hNe
  apply hRest (hTail.subset _)
  rw [hOtherText]
  exact List.mem_cons_self

/-- A number below a power of ten has few digits. -/
theorem decimal_length_le {n k : Nat} (hPos : 0 < k) (h : n < 10 ^ k) : (decimal n).length ≤ k := by
  unfold decimal
  split
  · exact hPos
  · rw [List.length_map, List.length_reverse]
    exact (Nat.digits_length_le_iff (by decide) n).mpr h

/-- The text of a header with a short payload is short. -/
theorem text_length_le {header : GDPPacketInTransit} (h : header.length < 10 ^ 5) :
    (text header).length ≤ 100 := by
  have hOpening : (opening header.action).length ≤ 40 := by
    cases header.action <;> decide +kernel
  have hKey : lengthKey.length ≤ 20 := by decide +kernel
  have hByte : ∀ byte : UInt8, (decimal byte.toNat).length ≤ 3 := fun byte =>
    decimal_length_le (by decide) (byte.toNat_lt.trans_le (by decide))
  have hFirst := hByte header.destination.bytes[0]
  have hSecond := hByte header.destination.bytes[1]
  have hThird := hByte header.destination.bytes[2]
  have hFourth := hByte header.destination.bytes[3]
  have hLength := decimal_length_le (by decide) h
  simp only [text, body, List.length_append, List.length_cons, List.length_nil]
  omega

end CompactJson

/-- The compact text begins with a brace that it does not repeat. -/
theorem compactJson_suffixFree : compactJson.SuffixFree := CompactJson.fromStr_suffix

/-- The compact text is as the derived one, and obeys its laws. -/
theorem compactJson_lawful : compactJson.Lawful where
  utf8 header := by
    apply validUtf8_of_ascii
    intro byte hByte
    rcases List.mem_append.mp hByte with h | h
    · exact (CompactJson.body_bytes header byte h).2.2
    · rw [List.mem_singleton.mp h]
      decide
  no_nul header h := by
    rcases List.mem_append.mp h with h | h
    · exact (CompactJson.body_bytes header 0 h).1 rfl
    · exact absurd (List.mem_singleton.mp h) (by decide)
  fromStr_toString := CompactJson.fromStr_text
  fromStr_prefix := CompactJson.fromStr_prefix

end GdpRouter
