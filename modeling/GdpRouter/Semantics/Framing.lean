import Mathlib.Algebra.GroupWithZero.Nat
import Mathlib.Data.List.Basic
import Mathlib.Data.List.Infix

/-! Delimited, length-prefixed framing over an arbitrary alphabet. A frame is a
header text without the delimiter, one delimiter, and exactly as many further
symbols as the parsed header announces. Nothing here fixes the header syntax. -/
namespace Framing

section Split

variable {β : Type*} [DecidableEq β] (delim : β)

/-- Cut at the first delimiter and drop it. The second part is absent when no
delimiter occurs, and present but possibly empty otherwise. -/
def splitFirst : List β → List β × Option (List β)
  | [] => ([], none)
  | symbol :: rest =>
      if symbol = delim then ([], some rest)
      else (symbol :: (splitFirst rest).1, (splitFirst rest).2)

@[simp] theorem splitFirst_nil : splitFirst delim [] = ([], none) := rfl

/-- Without a delimiter there is nothing to split. -/
theorem splitFirst_of_not_mem {buffer : List β} (h : delim ∉ buffer) :
    splitFirst delim buffer = (buffer, none) := by
  induction buffer with
  | nil => rfl
  | cons symbol rest ih =>
      obtain ⟨hHead, hRest⟩ := List.ne_and_not_mem_of_not_mem_cons h
      simp [splitFirst, Ne.symm hHead, ih hRest]

/-- The first delimiter is the one behind a text without any. -/
theorem splitFirst_append {text : List β} (rest : List β) (h : delim ∉ text) :
    splitFirst delim (text ++ delim :: rest) = (text, some rest) := by
  induction text with
  | nil => simp [splitFirst]
  | cons symbol tail ih =>
      obtain ⟨hHead, hTail⟩ := List.ne_and_not_mem_of_not_mem_cons h
      simp [splitFirst, Ne.symm hHead, ih hTail]

/-- Without a delimiter in the first part, the cut falls into the second. -/
theorem splitFirst_append_of_not_mem {text : List β} (rest : List β) (h : delim ∉ text) :
    splitFirst delim (text ++ rest) =
      (text ++ (splitFirst delim rest).1, (splitFirst delim rest).2) := by
  induction text with
  | nil => rfl
  | cons symbol tail ih =>
      obtain ⟨hHead, hTail⟩ := List.ne_and_not_mem_of_not_mem_cons h
      simp [splitFirst, Ne.symm hHead, ih hTail]

/-- Behind a delimiter, further symbols do not move the cut. -/
theorem splitFirst_fst_append_of_mem {buffer : List β} (rest : List β) (h : delim ∈ buffer) :
    (splitFirst delim (buffer ++ rest)).1 = (splitFirst delim buffer).1 := by
  obtain ⟨text, behind, rfl, hText⟩ := List.eq_append_cons_of_mem h
  rw [List.append_assoc, List.cons_append, splitFirst_append delim _ hText,
    splitFirst_append delim _ hText]

/-- The text before the cut never holds the delimiter. -/
theorem not_mem_splitFirst (buffer : List β) : delim ∉ (splitFirst delim buffer).1 := by
  induction buffer with
  | nil => simp
  | cons symbol rest ih =>
      unfold splitFirst
      split
      · simp
      · rename_i hHead
        simpa [Ne.symm hHead] using ih

/-- Gluing the two parts together again loses nothing. -/
theorem eq_of_splitFirst_some {buffer rest : List β}
    (h : (splitFirst delim buffer).2 = some rest) :
    buffer = (splitFirst delim buffer).1 ++ delim :: rest := by
  induction buffer with
  | nil => simp at h
  | cons symbol tail ih =>
      unfold splitFirst at h ⊢
      split at h
      · rename_i hHead
        simp only [Option.some.injEq] at h
        simp [hHead, h]
      · rename_i hHead
        simp only [hHead, ↓reduceIte, List.cons_append]
        exact congrArg (List.cons symbol) (ih h)

/-- There is a rest exactly when there is a delimiter. -/
theorem splitFirst_snd_eq_none_iff {buffer : List β} :
    (splitFirst delim buffer).2 = none ↔ delim ∉ buffer := by
  constructor
  · intro h hMem
    obtain ⟨text, rest, rfl, hText⟩ := List.eq_append_cons_of_mem hMem
    rw [splitFirst_append delim rest hText] at h
    cases h
  · intro h
    rw [splitFirst_of_not_mem delim h]

/-- The text before the delimiter is no longer than the buffer. -/
theorem splitFirst_fst_length_le (buffer : List β) :
    (splitFirst delim buffer).1.length ≤ buffer.length := by
  by_cases hDelim : delim ∈ buffer
  · obtain ⟨text, rest, rfl, hText⟩ := List.eq_append_cons_of_mem hDelim
    rw [splitFirst_append delim rest hText, List.length_append]
    exact Nat.le_add_right _ _
  · rw [splitFirst_of_not_mem delim hDelim]

/-- The rest behind the delimiter is shorter than the buffer. -/
theorem splitFirst_rest_length_lt {buffer rest : List β}
    (h : (splitFirst delim buffer).2 = some rest) : rest.length < buffer.length := by
  have hLength := congrArg List.length (eq_of_splitFirst_some delim h)
  simp only [List.length_append, List.length_cons] at hLength
  omega

end Split

/-- A header syntax together with the length that a header announces. `valid`
is the character set test that comes before parsing. -/
structure Codec (β H : Type*) where
  delim : β
  valid : List β → Bool
  parse : List β → Option H
  size : H → Nat

variable {β H : Type*}

/-- One complete frame. An ill-formed header or a short payload cannot be built. -/
structure Frame (C : Codec β H) where
  text : List β
  header : H
  payload : List β
  text_valid : C.valid text = true
  text_delim : C.delim ∉ text
  parsed : C.parse text = some header
  sized : payload.length = C.size header

namespace Frame

variable {C : Codec β H}

def encode (frame : Frame C) : List β := frame.text ++ C.delim :: frame.payload

/-- What a decoder reports for a complete frame. -/
def decoded (frame : Frame C) : H × List β := (frame.header, frame.payload)

theorem encode_length (frame : Frame C) :
    frame.encode.length = frame.text.length + 1 + frame.payload.length := by
  simp only [encode, List.length_append, List.length_cons]
  omega

theorem encode_length_pos (frame : Frame C) : 0 < frame.encode.length := by
  rw [encode_length]
  omega

theorem splitFirst_encode [DecidableEq β] (frame : Frame C) (rest : List β) :
    splitFirst C.delim (frame.encode ++ rest) = (frame.text, some (frame.payload ++ rest)) := by
  rw [encode, List.append_assoc, List.cons_append]
  exact splitFirst_append C.delim _ frame.text_delim

/-- A buffer starts with at most one complete frame. -/
theorem encode_append_inj [DecidableEq β] {first second : Frame C} {left right : List β}
    (h : first.encode ++ left = second.encode ++ right) : first = second ∧ left = right := by
  have hSplit := congrArg (splitFirst C.delim) h
  rw [splitFirst_encode, splitFirst_encode, Prod.mk.injEq, Option.some.injEq] at hSplit
  obtain ⟨hText, hBehind⟩ := hSplit
  have hHeader : first.header = second.header := by
    have hParsed := first.parsed
    rw [hText, second.parsed] at hParsed
    exact (Option.some.inj hParsed).symm
  have hSize : first.payload.length = second.payload.length := by
    rw [first.sized, second.sized, hHeader]
  obtain ⟨hPayload, hRest⟩ := List.append_inj hBehind hSize
  refine ⟨?_, hRest⟩
  cases first
  cases second
  simp_all

end Frame

/-- The wire image of a list of frames. -/
def encode {C : Codec β H} (frames : List (Frame C)) : List β := frames.flatMap Frame.encode

section Encode

variable {C : Codec β H}

@[simp] theorem encode_nil : encode ([] : List (Frame C)) = [] := rfl

@[simp] theorem encode_cons (frame : Frame C) (frames : List (Frame C)) :
    encode (frame :: frames) = frame.encode ++ encode frames := rfl

@[simp] theorem encode_append (first second : List (Frame C)) :
    encode (first ++ second) = encode first ++ encode second :=
  List.flatMap_append

variable [DecidableEq β]

/-- Complete frames are cut off a buffer in one way only, if no further one
begins where they end. -/
theorem encode_append_inj {frames others : List (Frame C)} {tail rest : List β}
    (hTail : ∀ (frame : Frame C) behind, tail ≠ frame.encode ++ behind)
    (hRest : ∀ (frame : Frame C) behind, rest ≠ frame.encode ++ behind)
    (h : encode frames ++ tail = encode others ++ rest) : frames = others ∧ tail = rest := by
  induction frames generalizing others with
  | nil =>
      cases others with
      | nil => exact ⟨rfl, h⟩
      | cons other others =>
          rw [encode_cons, List.append_assoc] at h
          exact absurd h (hTail other _)
  | cons frame frames ih =>
      rw [encode_cons, List.append_assoc] at h
      cases others with
      | nil => exact absurd h.symm (hRest frame _)
      | cons other others =>
          rw [encode_cons, List.append_assoc] at h
          obtain ⟨rfl, hBehind⟩ := Frame.encode_append_inj h
          obtain ⟨rfl, rfl⟩ := ih hBehind
          exact ⟨rfl, rfl⟩

/-- A buffer can be scanned without a decoder fault when, wherever its complete
frames end, what is left is empty, or begins with valid text that either reaches
a delimiter or is not yet a whole header. -/
def Clear (C : Codec β H) (buffer : List β) : Prop :=
  ∀ (frames : List (Frame C)) (tail : List β), buffer = encode frames ++ tail → tail ≠ [] →
    C.valid (splitFirst C.delim tail).1 = true ∧ (C.delim ∈ tail ∨ C.parse tail = none)

theorem clear_nil : Clear C [] := by
  intro frames tail h hTail
  exact absurd (List.append_eq_nil_iff.mp h.symm).2 hTail

/-- A leading complete frame does not matter. -/
theorem clear_encode_append_iff {frame : Frame C} {rest : List β} :
    Clear C (frame.encode ++ rest) ↔ Clear C rest := by
  constructor
  · intro h frames tail hRest hTail
    exact h (frame :: frames) tail (by rw [hRest, encode_cons, List.append_assoc]) hTail
  · intro h frames tail hBuffer hTail
    cases frames with
    | nil =>
        rw [encode_nil, List.nil_append] at hBuffer
        rw [← hBuffer, frame.splitFirst_encode]
        exact ⟨frame.text_valid, .inl (by simp [Frame.encode])⟩
    | cons first frames =>
        rw [encode_cons, List.append_assoc] at hBuffer
        exact h frames tail (Frame.encode_append_inj hBuffer).2 hTail

/-- A buffer that starts with no complete frame is clear when it is itself. -/
theorem clear_of_no_frame {buffer : List β}
    (hFrame : ∀ (frame : Frame C) rest, buffer ≠ frame.encode ++ rest)
    (hValid : C.valid (splitFirst C.delim buffer).1 = true)
    (hHeader : C.delim ∈ buffer ∨ C.parse buffer = none) : Clear C buffer := by
  intro frames tail hBuffer _
  cases frames with
  | nil =>
      rw [encode_nil, List.nil_append] at hBuffer
      exact hBuffer ▸ ⟨hValid, hHeader⟩
  | cons frame frames =>
      rw [encode_cons, List.append_assoc] at hBuffer
      exact absurd hBuffer (hFrame frame _)

/-- The condition at the start of the buffer itself. -/
theorem Clear.head {buffer : List β} (h : Clear C buffer) (hBuffer : buffer ≠ []) :
    C.valid (splitFirst C.delim buffer).1 = true ∧ (C.delim ∈ buffer ∨ C.parse buffer = none) :=
  h [] buffer rfl hBuffer

end Encode

section Complete

variable {α : Type*} (size : α → Nat)

/-- The longest initial run of items whose sizes fit in `n`. With frame lengths
for sizes these are the frames that are complete in the first `n` symbols. -/
def completeWithin : List α → Nat → List α
  | [], _ => []
  | item :: rest, n => if size item ≤ n then item :: completeWithin rest (n - size item) else []

/-- The items that are complete come first. -/
theorem completeWithin_isPrefix (items : List α) (n : Nat) :
    completeWithin size items n <+: items := by
  induction items generalizing n with
  | nil => exact List.nil_prefix
  | cons item rest ih =>
      unfold completeWithin
      split
      · exact (List.prefix_cons_inj item).mpr (ih _)
      · exact List.nil_prefix

theorem completeWithin_cons_of_lt {item : α} {rest : List α} {n : Nat} (h : n < size item) :
    completeWithin size (item :: rest) n = [] := by
  simp [completeWithin, Nat.not_le.mpr h]

/-- A budget that is too small for all items stops before the last one. -/
theorem completeWithin_isPrefix_of_lt {items : List α} {last : α} {n : Nat}
    (h : n < ((items ++ [last]).map size).sum) :
    completeWithin size (items ++ [last]) n <+: items := by
  induction items generalizing n with
  | nil =>
      have hLast : n < size last := by simpa using h
      rw [List.nil_append, completeWithin_cons_of_lt size hLast]
  | cons item rest ih =>
      rw [List.cons_append, List.map_cons, List.sum_cons] at h
      rw [List.cons_append, completeWithin]
      split
      · apply (List.prefix_cons_inj item).mpr
        exact ih (by omega)
      · exact List.nil_prefix

/-- Items that fit altogether are all taken, and the budget is charged for them. -/
theorem completeWithin_append (first second : List α) (extra : Nat) :
    completeWithin size (first ++ second) ((first.map size).sum + extra) =
      first ++ completeWithin size second extra := by
  induction first with
  | nil => simp
  | cons item rest ih =>
      simp only [List.cons_append, List.map_cons, List.sum_cons, completeWithin]
      rw [if_pos (by omega), show size item + (rest.map size).sum + extra - size item =
        (rest.map size).sum + extra by omega, ih]

theorem completeWithin_all (items : List α) :
    completeWithin size items (items.map size).sum = items := by
  have h := completeWithin_append size items [] 0
  simpa [completeWithin] using h

/-- The items may carry proofs, as long as their sizes do not depend on them. -/
theorem completeWithin_pmap {γ : Type*} {p : γ → Prop} {f : ∀ item, p item → α} {size' : γ → Nat}
    (hSize : ∀ item h, size (f item h) = size' item) {items : List γ} (h : ∀ item ∈ items, p item)
    (n : Nat) :
    completeWithin size (items.pmap f h) n = (completeWithin size' items n).pmap f
      fun item hItem => h item ((completeWithin_isPrefix size' items n).subset hItem) := by
  induction items generalizing n with
  | nil => rfl
  | cons item rest ih =>
      simp only [List.pmap_cons, completeWithin, hSize]
      split
      · simp only [List.pmap_cons, ih]
      · rfl

/-- The item that a cut after `n` symbols falls into, and how much of it lies
before the cut. A cut at the end of an item falls into the next one. -/
def cutItem : List α → Nat → Option (α × Nat)
  | [], _ => none
  | item :: rest, n => if size item ≤ n then cutItem rest (n - size item) else some (item, n)

/-- At the end no item is cut. -/
theorem cutItem_all (items : List α) : cutItem size items (items.map size).sum = none := by
  induction items with
  | nil => rfl
  | cons item rest ih =>
      rw [List.map_cons, List.sum_cons, cutItem, if_pos (by omega), Nat.add_sub_cancel_left, ih]

/-- The item that is cut comes right behind those that are complete. -/
theorem cutItem_eq_some {items : List α} {n k : Nat} {item : α}
    (h : cutItem size items n = some (item, k)) : k < size item ∧
      ∃ rest, items = completeWithin size items n ++ item :: rest ∧
        n = ((completeWithin size items n).map size).sum + k := by
  induction items generalizing n with
  | nil => cases h
  | cons head tail ih =>
      unfold cutItem at h
      unfold completeWithin
      split at h
      · rename_i hFits
        obtain ⟨hLess, rest, hTail, hCut⟩ := ih h
        rw [if_pos hFits]
        refine ⟨hLess, rest, congrArg (List.cons head) hTail, ?_⟩
        simp only [List.map_cons, List.sum_cons]
        omega
      · rename_i hLess
        cases h
        rw [if_neg hLess]
        exact ⟨Nat.not_le.mp hLess, tail, rfl, (Nat.zero_add _).symm⟩

variable {C : Codec β H}

theorem length_encode (frames : List (Frame C)) :
    (encode frames).length = (frames.map fun frame => frame.encode.length).sum :=
  List.length_flatMap

/-- The frames that end within the first `n` symbols of their wire image. -/
def completeFrames (frames : List (Frame C)) (n : Nat) : List (Frame C) :=
  completeWithin (fun frame => frame.encode.length) frames n

/-- The frame that a cut of the wire image falls into, and where. -/
def cutFrame (frames : List (Frame C)) (n : Nat) : Option (Frame C × Nat) :=
  cutItem (fun frame => frame.encode.length) frames n

/-- The symbols between the last complete frame and the cut. -/
def cutPart (frames : List (Frame C)) (n : Nat) : List β :=
  (cutFrame frames n).elim [] fun cut => cut.1.encode.take cut.2

theorem cutFrame_encode_length (frames : List (Frame C)) :
    cutFrame frames (encode frames).length = none := by
  rw [length_encode]
  exact cutItem_all _ frames

theorem completeFrames_encode_length (frames : List (Frame C)) :
    completeFrames frames (encode frames).length = frames := by
  rw [length_encode]
  exact completeWithin_all _ frames

/-- A prefix of a wire image is made of its complete frames and a part of the next. -/
theorem eq_encode_append_cutPart {frames : List (Frame C)} {buffer : List β}
    (h : buffer <+: encode frames) :
    buffer = encode (completeFrames frames buffer.length) ++ cutPart frames buffer.length := by
  induction frames generalizing buffer with
  | nil =>
      obtain rfl := List.prefix_nil.mp h
      rfl
  | cons frame frames ih =>
      by_cases hWhole : frame.encode.length ≤ buffer.length
      · obtain ⟨rest, rfl⟩ := List.prefix_of_prefix_length_le (List.prefix_append _ _) h hWhole
        rw [encode_cons, List.prefix_append_right_inj] at h
        have hRest : (frame.encode ++ rest).length - frame.encode.length = rest.length := by
          rw [List.length_append, Nat.add_sub_cancel_left]
        simp only [completeFrames, completeWithin, cutPart, cutFrame, cutItem, if_pos hWhole, hRest,
          encode_cons, List.append_assoc]
        exact congrArg (frame.encode ++ ·) (ih h)
      · simp only [completeFrames, completeWithin, cutPart, cutFrame, cutItem, if_neg hWhole,
          Option.elim_some, encode_nil, List.nil_append]
        have hPart : buffer <+: frame.encode :=
          List.prefix_of_prefix_length_le h (List.prefix_append _ _) (by omega)
        exact List.prefix_iff_eq_take.mp hPart

end Complete

end Framing
