import Conform.Source.Document

/-
  The text that is read of a file. It is all that the file
  delivers, or there is none: nothing is cut off and read as
  if it were the whole. A text is read exactly if the bytes
  are no more than allowed and encode characters.

  One byte more than allowed is asked for, so that a file
  which delivers more than it says it has is found out. Only
  at the greatest size there is no such byte to ask for.

  Main declarations:
    * `bytesOfText`
    * `textOfBytes?_eq_some_iff`
    * `Content.eq_bytes_of_short`
    * `readText_file_eq_ok_iff`
    * `readText_file_eq_error_iff`
    * `readText_eq_ok_iff`
    * `readText_sizeLaws`
-/

namespace Conform

------------------------------------------------------------
-- Bytes of a Text
------------------------------------------------------------

/- The bytes that encode the characters of a text. -/
def bytesOfText
    (text : String) : List UInt8 :=
  text.toList.flatMap String.utf8EncodeChar

theorem toByteArray_eq
    (text : String) :
    text.toByteArray = ⟨(bytesOfText text).toArray⟩ := by
  rw [← String.utf8Encode_toList]
  apply ByteArray.ext
  exact List.data_toByteArray

/- Bytes are decoded to the text that they encode. -/
theorem textOfBytes?_eq_some_iff
    {bytes : List UInt8}
    {text : String} :
    textOfBytes? bytes = some text ↔
      bytesOfText text = bytes := by
  unfold textOfBytes? String.fromUTF8?
  constructor
  · intro h
    split at h
    · have hText := Option.some.inj h
      have hBytes : text.toByteArray = ⟨bytes.toArray⟩ := by
        rw [← hText]
        rfl
      rw [toByteArray_eq] at hBytes
      have hArrays := congrArg ByteArray.data hBytes
      exact congrArg Array.toList hArrays
    · cases h
  · rintro rfl
    rw [← toByteArray_eq, dif_pos text.isValidUTF8]
    rfl

/- The bytes that are well formed are those of the texts. -/
theorem isValidUTF8_iff
    {bytes : List UInt8} :
    ByteArray.IsValidUTF8 ⟨bytes.toArray⟩ ↔
      ∃ text, bytesOfText text = bytes := by
  constructor
  · intro hValid
    have hText : textOfBytes? bytes =
        some (String.ofByteArray ⟨bytes.toArray⟩ hValid) :=
      dif_pos hValid
    exact ⟨_, textOfBytes?_eq_some_iff.mp hText⟩
  · rintro ⟨text, rfl⟩
    rw [← toByteArray_eq]
    exact text.isValidUTF8

theorem textOfBytes?_eq_none_iff
    {bytes : List UInt8} :
    textOfBytes? bytes = none ↔
      ¬ ByteArray.IsValidUTF8 ⟨bytes.toArray⟩ := by
  rw [isValidUTF8_iff, Option.eq_none_iff_forall_ne_some]
  constructor
  · rintro h ⟨text, hBytes⟩
    exact h text (textOfBytes?_eq_some_iff.mpr hBytes)
  · intro h text hText
    exact h ⟨text, textOfBytes?_eq_some_iff.mp hText⟩

------------------------------------------------------------
-- Contents
------------------------------------------------------------

/-
  If fewer bytes come than are asked for, then these are all
  that there are.
-/
theorem Content.eq_bytes_of_short
    {n : Nat}
    {content : Content}
    (h : (content.take n).length < n) :
    content = .bytes (content.take n) := by
  cases content with
  | bytes all =>
      have hAll : all.length ≤ n := by
        rw [take, List.length_take] at h
        omega
      rw [take, List.take_of_length_le hAll]
  | endless byteAt =>
      rw [take, List.length_map, List.length_range] at h
      exact absurd h (Nat.lt_irrefl n)

theorem Content.take_bytes
    {n : Nat}
    {all : List UInt8}
    (h : all.length ≤ n) :
    (bytes all).take n = all :=
  List.take_of_length_le h

------------------------------------------------------------
-- Reading
------------------------------------------------------------

section

variable {files : Files}
variable {path : String}
variable {maxSize : Nat}

/- What is asked for is read if it is not too much. -/
theorem readText_of_content
    {entry : Entry}
    {content : Content}
    (hEntry : files path = .ok entry)
    (hSize : entry.size ≤ maxSize)
    (hContent : entry.content? = some content) :
    readText files path maxSize =
      match textOfBytes?
          (content.take (min (maxSize + 1) sizeLimit)) with
      | none => .error (.reading path .notText)
      | some text =>
          if maxSize < (bytesOfText text).length then
            .error (.tooLargeWhileReading path)
          else .ok text := by
  unfold readText
  rw [hEntry]
  dsimp only
  rw [if_neg (Nat.not_lt.mpr hSize), hContent]
  dsimp only
  cases hText : textOfBytes?
      (content.take (min (maxSize + 1) sizeLimit)) with
  | none => rfl
  | some text =>
      dsimp only
      rw [textOfBytes?_eq_some_iff.mp hText]

/-
  A file with the size that it says it has. If the size is
  allowed then all of it is asked for.
-/
theorem readText_of_file
    {bytes : List UInt8}
    (hMax : maxSize ≤ sizeLimit)
    (hFile : files path =
      .ok (.file bytes.length (.bytes bytes))) :
    readText files path maxSize =
      if maxSize < bytes.length then
        .error (.tooLarge bytes.length maxSize path)
      else
        match textOfBytes? bytes with
        | none => .error (.reading path .notText)
        | some text => .ok text := by
  by_cases hSize : maxSize < bytes.length
  · rw [if_pos hSize, readText, hFile]
    exact if_pos hSize
  · have hAllowed : bytes.length ≤ maxSize :=
      Nat.not_lt.mp hSize
    have hAll : bytes.length ≤ min (maxSize + 1) sizeLimit := by
      omega
    rw [if_neg hSize,
      readText_of_content hFile hAllowed rfl,
      Content.take_bytes hAll]
    cases hText : textOfBytes? bytes with
    | none => rfl
    | some text =>
        dsimp only
        rw [textOfBytes?_eq_some_iff.mp hText, if_neg hSize]

theorem readText_file_eq_ok_iff
    {bytes : List UInt8}
    (hMax : maxSize ≤ sizeLimit)
    (hFile : files path =
      .ok (.file bytes.length (.bytes bytes)))
    {text : String} :
    readText files path maxSize = .ok text ↔
      bytes.length ≤ maxSize ∧ bytesOfText text = bytes := by
  rw [readText_of_file hMax hFile,
    ← textOfBytes?_eq_some_iff]
  by_cases hSize : maxSize < bytes.length
  · rw [if_pos hSize]
    constructor
    · intro h
      cases h
    · rintro ⟨hAllowed, _⟩
      exact absurd hSize (Nat.not_lt.mpr hAllowed)
  · have hAllowed : bytes.length ≤ maxSize :=
      Nat.not_lt.mp hSize
    rw [if_neg hSize]
    cases textOfBytes? bytes with
    | none => simp
    | some found => simp [hAllowed]

theorem readText_file_eq_error_iff
    {bytes : List UInt8}
    (hMax : maxSize ≤ sizeLimit)
    (hFile : files path =
      .ok (.file bytes.length (.bytes bytes)))
    {e : LoadError} :
    readText files path maxSize = .error e ↔
      maxSize < bytes.length ∧
          e = .tooLarge bytes.length maxSize path ∨
        bytes.length ≤ maxSize ∧
          ¬ ByteArray.IsValidUTF8 ⟨bytes.toArray⟩ ∧
          e = .reading path .notText := by
  rw [readText_of_file hMax hFile,
    ← textOfBytes?_eq_none_iff]
  by_cases hSize : maxSize < bytes.length
  · have hExcess : ¬ bytes.length ≤ maxSize :=
      Nat.not_le.mpr hSize
    rw [if_pos hSize]
    simp [hSize, hExcess, eq_comm]
  · have hAllowed : bytes.length ≤ maxSize :=
      Nat.not_lt.mp hSize
    rw [if_neg hSize]
    cases textOfBytes? bytes with
    | none => simp [hSize, hAllowed, eq_comm]
    | some text => simp [hSize]

/- What has happened where a text is read. -/
theorem exists_content_of_readText
    {text : String}
    (h : readText files path maxSize = .ok text) :
    ∃ entry content,
      files path = .ok entry ∧
        entry.size ≤ maxSize ∧
        entry.content? = some content ∧
        content.take (min (maxSize + 1) sizeLimit) =
          bytesOfText text ∧
        (bytesOfText text).length ≤ maxSize := by
  unfold readText at h
  split at h
  · cases h
  next entry hEntry =>
    split at h
    · cases h
    next hSize =>
      split at h
      · cases h
      next content hContent =>
        dsimp only at h
        split at h
        · cases h
        next found hText =>
          have hBytes := textOfBytes?_eq_some_iff.mp hText
          rw [← hBytes] at h
          split at h
          · cases h
          next hLength =>
            cases h
            exact ⟨entry, content, hEntry, Nat.not_lt.mp hSize,
              hContent, hBytes.symm, Nat.not_lt.mp hLength⟩

/-
  What is read of an entry is all that it delivers, if there
  is a byte more to ask for than allowed.
-/
theorem readText_eq_ok_iff
    {entry : Entry}
    (hMax : maxSize < sizeLimit)
    (hEntry : files path = .ok entry)
    {text : String} :
    readText files path maxSize = .ok text ↔
      entry.size ≤ maxSize ∧
        entry.content? = some (.bytes (bytesOfText text)) ∧
        (bytesOfText text).length ≤ maxSize := by
  have hAsked : min (maxSize + 1) sizeLimit = maxSize + 1 := by
    omega
  constructor
  · intro h
    rcases exists_content_of_readText h with
      ⟨found, content, hFound, hSize, hContent, hTake, hLength⟩
    cases hEntry.symm.trans hFound
    rw [hAsked] at hTake
    have hShort :
        (content.take (maxSize + 1)).length < maxSize + 1 := by
      rw [hTake]
      omega
    have hWhole := Content.eq_bytes_of_short hShort
    rw [hTake] at hWhole
    exact ⟨hSize, hWhole ▸ hContent, hLength⟩
  · rintro ⟨hSize, hContent, hLength⟩
    have hTake : (Content.bytes (bytesOfText text)).take
        (maxSize + 1) = bytesOfText text :=
      Content.take_bytes (Nat.le_succ_of_le hLength)
    rw [readText_of_content hEntry hSize hContent, hAsked,
      hTake, textOfBytes?_eq_some_iff.mpr rfl]
    exact if_neg (Nat.not_lt.mpr hLength)

end

------------------------------------------------------------
-- Nothing Is Cut Off
------------------------------------------------------------

/-
  What the size that is allowed does under a path. A file
  with the size that it says it has is read exactly if it is
  no larger and encodes a text, and then as all of it. Of
  what delivers more than it says, nothing is read that is
  not the whole of it.
-/
structure SizeLaws
    (files : Files)
    (path : String)
    (maxSize : Nat) : Prop where
  accepted :
    ∀ bytes,
      files path = .ok (.file bytes.length (.bytes bytes)) →
        ((∃ text, readText files path maxSize = .ok text) ↔
          bytes.length ≤ maxSize ∧
            ByteArray.IsValidUTF8 ⟨bytes.toArray⟩)
  whole :
    ∀ bytes,
      files path = .ok (.file bytes.length (.bytes bytes)) →
        ∀ text,
          readText files path maxSize = .ok text →
            bytesOfText text = bytes
  refused :
    ∀ bytes,
      files path = .ok (.file bytes.length (.bytes bytes)) →
        ∀ e,
          readText files path maxSize = .error e ↔
            maxSize < bytes.length ∧
                e = .tooLarge bytes.length maxSize path ∨
              bytes.length ≤ maxSize ∧
                ¬ ByteArray.IsValidUTF8 ⟨bytes.toArray⟩ ∧
                e = .reading path .notText
  delivered :
    maxSize < sizeLimit →
      ∀ entry,
        files path = .ok entry →
          ∀ text,
            readText files path maxSize = .ok text →
              entry.content? =
                  some (.bytes (bytesOfText text)) ∧
                (bytesOfText text).length ≤ maxSize

theorem readText_sizeLaws
    (files : Files)
    (path : String)
    (maxSize : Nat)
    (hMax : maxSize ≤ sizeLimit) :
    SizeLaws files path maxSize where
  accepted := by
    intro bytes hFile
    rw [isValidUTF8_iff, ← exists_and_left]
    apply exists_congr
    intro text
    exact readText_file_eq_ok_iff hMax hFile
  whole := by
    intro bytes hFile text h
    exact ((readText_file_eq_ok_iff hMax hFile).mp h).2
  refused := by
    intro bytes hFile e
    exact readText_file_eq_error_iff hMax hFile
  delivered := by
    intro hBelow entry hEntry text h
    exact ((readText_eq_ok_iff hBelow hEntry).mp h).2

/-
  A letter of two bytes, in a file and from a device that
  says it has none, where at most two bytes are allowed.
-/
theorem readText_sizeLaws_letter :
    let files : Files := fun path =>
      if path = "letter" then .ok (.file 2 (.bytes [195, 169]))
      else if path = "device" then
        .ok (.device 0 (.bytes [195, 169]))
      else .ok (.device 0 (.endless fun _ => 97))
    2 ≤ sizeLimit ∧
      (∃ text, readText files "letter" 2 = .ok text) ∧
      readText files "letter" 1 =
        .error (.tooLarge 2 1 "letter") ∧
      (∀ text,
        readText files "device" 2 = .ok text →
          bytesOfText text = [195, 169]) ∧
      (∀ text, readText files "stream" 2 ≠ .ok text) := by
  intro files
  have hTwo : 2 ≤ sizeLimit := by decide
  have hOne : 1 ≤ sizeLimit := by decide
  have hBelow : 2 < sizeLimit := by decide
  have hEncoded :
      ByteArray.IsValidUTF8 ⟨[195, 169].toArray⟩ :=
    isValidUTF8_iff.mpr ⟨"é", by decide⟩
  refine ⟨hTwo, ?_, ?_, ?_, ?_⟩
  · exact ((readText_sizeLaws files "letter" 2 hTwo).accepted
      [195, 169] rfl).mpr ⟨Nat.le_refl 2, hEncoded⟩
  · exact ((readText_sizeLaws files "letter" 1 hOne).refused
      [195, 169] rfl _).mpr (Or.inl ⟨by decide, rfl⟩)
  · intro text h
    have hRead := (readText_sizeLaws files "device" 2
      hTwo).delivered hBelow _ rfl text h
    have hContent := Content.bytes.inj (Option.some.inj hRead.1)
    exact hContent.symm
  · intro text h
    have hRead := (readText_sizeLaws files "stream" 2
      hTwo).delivered hBelow _ rfl text h
    cases hRead.1

end Conform
