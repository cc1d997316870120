import Conform.Catalog

/-
  Finding a document and telling its format. A base path
  without an extension is completed by each extension in
  turn, and the format is then told from the extension of
  the completed path. The two agree unless the base path
  ends before a name begins: completing `schemas/` gives
  `schemas/.json`, and a dot at the start of a name starts
  no extension.

  Main declarations:
    * `Path.IsOpen`
    * `Path.extension?_withExtension`
    * `Location.Completes`
    * `Location.format_of_resolved`
    * `Location.hidden_document_refused`
-/

namespace Conform

------------------------------------------------------------
-- The Last Piece of a Text
------------------------------------------------------------

namespace Text

section

variable {separator : Char}

theorem split_cons_self
    (current rest : List Char) :
    split separator current (separator :: rest) =
      current.reverse :: split separator [] rest := by
  rw [split, if_pos rfl]

theorem split_cons_of_ne
    {c : Char}
    (h : c ≠ separator)
    (current rest : List Char) :
    split separator current (c :: rest) =
      split separator (c :: current) rest := by
  rw [split, if_neg h]

/- A text without separators is one piece. -/
theorem split_of_notMem
    {cs : List Char}
    (h : separator ∉ cs)
    (current : List Char) :
    split separator current cs = [current.reverse ++ cs] := by
  induction cs generalizing current with
  | nil => simp [split]
  | cons c rest ih =>
      rw [List.mem_cons, not_or] at h
      rw [split_cons_of_ne (Ne.symm h.1), ih h.2]
      simp

/- A text always has a last piece. -/
theorem split_ne_nil
    (current cs : List Char) :
    split separator current cs ≠ [] := by
  induction cs generalizing current with
  | nil => simp [split]
  | cons c rest ih =>
      by_cases hEq : c = separator
      · subst hEq
        simp [split_cons_self]
      · rw [split_cons_of_ne hEq]
        exact ih _

/- The last piece of a text that has been begun already. -/
def lastPiece
    (separator : Char)
    (current cs : List Char) : List Char :=
  (split separator current cs).getLast
    (split_ne_nil current cs)

theorem lastPiece_cons_self
    (current rest : List Char) :
    lastPiece separator current (separator :: rest) =
      lastPiece separator [] rest := by
  simp only [lastPiece, split_cons_self]
  exact List.getLast_cons (split_ne_nil [] rest)

theorem lastPiece_cons_of_ne
    {c : Char}
    (h : c ≠ separator)
    (current rest : List Char) :
    lastPiece separator current (c :: rest) =
      lastPiece separator (c :: current) rest := by
  simp only [lastPiece, split_cons_of_ne h]

/- What is put behind a text goes to the last piece. -/
theorem split_append
    {added : List Char}
    (h : separator ∉ added)
    (current cs : List Char) :
    split separator current (cs ++ added) =
      (split separator current cs).dropLast ++
        [lastPiece separator current cs ++ added] := by
  induction cs generalizing current with
  | nil => simp [lastPiece, split, split_of_notMem h]
  | cons c rest ih =>
      by_cases hEq : c = separator
      · subst hEq
        rw [List.cons_append, split_cons_self, ih,
          lastPiece_cons_self, split_cons_self,
          List.dropLast_cons_of_ne_nil (split_ne_nil [] rest),
          List.cons_append]
      · rw [List.cons_append, split_cons_of_ne hEq, ih,
          lastPiece_cons_of_ne hEq, split_cons_of_ne hEq]

/-
  The last piece is empty if nothing stands behind the last
  separator. A piece that has been begun is not empty unless
  it is ended.
-/
theorem lastPiece_eq_nil_iff
    (current cs : List Char) :
    lastPiece separator current cs = [] ↔
      (cs = [] ∧ current = []) ∨
        cs.getLast? = some separator := by
  induction cs generalizing current with
  | nil => simp [lastPiece, split]
  | cons c rest ih =>
      by_cases hEq : c = separator
      · subst hEq
        rw [lastPiece_cons_self, ih]
        cases rest <;> simp [List.getLast?_cons_cons]
      · rw [lastPiece_cons_of_ne hEq, ih]
        cases rest <;> simp [hEq, List.getLast?_cons_cons]

end

end Text

------------------------------------------------------------
-- Extensions
------------------------------------------------------------

namespace Path

/-
  A path that ends before a name begins: the empty path, and
  a path that ends with a slash.
-/
def IsOpen
    (path : String) : Prop :=
  path = "" ∨ path.toList.getLast? = some '/'

theorem lastPiece_eq_nil_iff_isOpen
    (path : String) :
    Text.lastPiece '/' [] path.toList = [] ↔ IsOpen path := by
  rw [Text.lastPiece_eq_nil_iff, IsOpen]
  simp

/- The last of several dots is the one to split at. -/
theorem splitLastDot?_append
    {after : List Char}
    (h : '.' ∉ after)
    (before : List Char) :
    splitLastDot? (before ++ '.' :: after) =
      some (before, after) := by
  have hReverse : (before ++ '.' :: after).reverse =
      after.reverse ++ '.' :: before.reverse := by
    simp
  have hNoDot : ∀ c ∈ after.reverse, (c != '.') = true := by
    intro c hc
    have hMem : c ∈ after := List.mem_reverse.mp hc
    have hNe : c ≠ '.' := fun hEq => h (hEq ▸ hMem)
    simpa using hNe
  unfold splitLastDot?
  rw [hReverse, List.takeWhile_append_of_pos hNoDot,
    List.dropWhile_append_of_pos hNoDot]
  simp

/- A text is none of those that end with another character. -/
theorem bne_of_getLast?
    {name : List Char}
    {c : Char}
    (hLast : name.getLast? = some c)
    {text : String}
    (hText : text.toList.getLast? ≠ some c) :
    (String.ofList name != text) = true := by
  rw [bne_iff_ne]
  rintro rfl
  exact hText (by rw [String.toList_ofList, hLast])

section

variable {extension : String}

/-
  The name of the file that a completed path leads to. It is
  a name and no step, since it does not end with a dot.
-/
theorem fileName?_withExtension
    (hNonempty : extension ≠ "")
    (hSlash : '/' ∉ extension.toList)
    (hDot : '.' ∉ extension.toList)
    (path : String) :
    fileName? (withExtension path extension) =
      some (String.ofList
        (Text.lastPiece '/' [] path.toList ++
          '.' :: extension.toList)) := by
  have hAdded : '/' ∉ '.' :: extension.toList := by
    simpa using hSlash
  have hPath : (withExtension path extension).toList =
      path.toList ++ '.' :: extension.toList := by
    simp [withExtension]
  have hNotNil : extension.toList ≠ [] := by
    simpa using hNonempty
  generalize hName : Text.lastPiece '/' [] path.toList ++
    '.' :: extension.toList = name
  have hLast : name.getLast? =
      some (extension.toList.getLast hNotNil) := by
    rw [← hName, List.append_cons, List.getLast?_append,
      List.getLast?_eq_some_getLast hNotNil, Option.some_or]
  have hNoDot : extension.toList.getLast hNotNil ≠ '.' :=
    fun hEq => hDot (hEq ▸ List.getLast_mem hNotNil)
  have hNotEmpty : (String.ofList name != "") = true :=
    bne_of_getLast? hLast (by simp)
  have hNotHere : (String.ofList name != ".") = true :=
    bne_of_getLast? hLast (by simpa using Ne.symm hNoDot)
  have hNotUp : (String.ofList name != "..") = true :=
    bne_of_getLast? hLast (by simpa using Ne.symm hNoDot)
  rw [fileName?, segments, Text.pieces, hPath,
    Text.split_append hAdded, List.map_append,
    List.filter_append, hName]
  simp [hNotEmpty, hNotHere, hNotUp]

/-
  A completed path has the extension that was put behind it,
  unless the dot of the extension starts the name.
-/
theorem extension?_withExtension
    (hNonempty : extension ≠ "")
    (hSlash : '/' ∉ extension.toList)
    (hDot : '.' ∉ extension.toList)
    (path : String) :
    (IsOpen path →
        extension? (withExtension path extension) = none) ∧
      (¬ IsOpen path →
        extension? (withExtension path extension) =
          some extension) := by
  rw [← lastPiece_eq_nil_iff_isOpen, extension?,
    fileName?_withExtension hNonempty hSlash hDot,
    Option.bind_some, String.toList_ofList,
    splitLastDot?_append hDot]
  cases Text.lastPiece '/' [] path.toList with
  | nil => simp
  | cons c rest => simp

end

end Path

------------------------------------------------------------
-- Locations
------------------------------------------------------------

/- What holds of each extension that is tried. -/
theorem Format.of_mem_extensions
    {extension : String}
    (h : extension ∈ Format.extensions) :
    extension ≠ "" ∧ '/' ∉ extension.toList ∧
      '.' ∉ extension.toList ∧
      (Format.ofExtension? extension).isSome = true := by
  revert extension
  decide

/-
  The format of a completed path is known unless the path
  was open before.
-/
theorem Format.ofPath?_withExtension
    {extension : String}
    (h : extension ∈ Format.extensions)
    (base : String) :
    (Format.ofPath? (Path.withExtension base extension)).isSome =
        true ↔
      ¬ Path.IsOpen base := by
  rcases Format.of_mem_extensions h with
    ⟨hNonempty, hSlash, hDot, hKnown⟩
  rcases Path.extension?_withExtension hNonempty hSlash hDot
    base with ⟨hOpen, hClosed⟩
  by_cases hBase : Path.IsOpen base
  · simp [Format.ofPath?, hOpen hBase, hBase]
  · simpa [Format.ofPath?, hClosed hBase, hBase] using hKnown

namespace Location

/-
  A path that completes a base path by the first extension
  for which there is a regular file.
-/
def Completes
    (files : Files)
    (base path : String) : Prop :=
  ∃ before extension after,
    ["json", "yaml", "yml"] = before ++ extension :: after ∧
      path = base ++ "." ++ extension ∧
      files.isFile path = true ∧
      ∀ e ∈ before, files.isFile (base ++ "." ++ e) = false

theorem Completes.exists_extension
    {files : Files}
    {base path : String}
    (h : Completes files base path) :
    ∃ extension ∈ Format.extensions,
      path = Path.withExtension base extension := by
  rcases h with ⟨before, extension, after, hAll, hPath, _⟩
  refine ⟨extension, ?_, hPath⟩
  rw [Format.extensions, hAll]
  simp

theorem Completes.ne
    {files : Files}
    {base path : String}
    (h : Completes files base path) :
    path ≠ base := by
  rcases h.exists_extension with ⟨extension, _, rfl⟩
  intro hEq
  have hLength := congrArg String.length hEq
  have hDot : ".".length = 1 := rfl
  simp only [Path.withExtension, String.length_append, hDot]
    at hLength
  omega

theorem Completes.isFile
    {files : Files}
    {base path : String}
    (h : Completes files base path) :
    files.isFile path = true := by
  rcases h with ⟨_, _, _, _, _, hFile, _⟩
  exact hFile

/- The path that is found by trying is completed so. -/
theorem completes_of_find?
    {files : Files}
    {base path : String}
    (h : (candidates base).find? files.isFile = some path) :
    Completes files base path := by
  rw [candidates, List.find?_map] at h
  rcases Option.map_eq_some_iff.mp h with
    ⟨extension, hFind, hPath⟩
  rcases List.find?_eq_some_iff_append.mp hFind with
    ⟨hFile, before, after, hAll, hBefore⟩
  subst hPath
  exact ⟨before, extension, after, hAll, rfl, hFile,
    fun e he => by
      simpa [Path.withExtension] using hBefore e he⟩

/-
  A location that leads to a path has a base path. Either
  this has an extension that stands for a format and is the
  path, or it has none and the path completes it.
-/
theorem resolve_eq_ok
    {files : Files}
    {location : Location}
    {path : String}
    (h : location.resolve files = .ok path) :
    ∃ base, location.path = some base ∧
      ((path = base ∧ files.isFile path = true ∧
          (Path.extension? base).isSome = true ∧
          (Format.ofPath? base).isSome = true) ∨
        (Path.extension? base = none ∧
          Completes files base path)) := by
  unfold resolve at h
  cases hBase : location.path with
  | none => simp [hBase] at h
  | some base =>
      refine ⟨base, rfl, ?_⟩
      simp only [hBase] at h
      by_cases hExtension : (Path.extension? base).isSome = true
      · rw [if_pos hExtension] at h
        by_cases hFormat : (Format.ofPath? base).isNone = true
        · simp [hFormat] at h
        · rw [if_neg hFormat] at h
          by_cases hFile : files.isFile base = true
          · rw [if_pos hFile] at h
            cases h
            refine Or.inl ⟨rfl, hFile, hExtension, ?_⟩
            simpa [Option.isSome_iff_ne_none] using hFormat
          · simp [hFile] at h
      · rw [if_neg hExtension] at h
        apply Or.inr
        refine ⟨by simpa using hExtension, ?_⟩
        cases hFind : (candidates base).find? files.isFile with
        | none => simp [hFind] at h
        | some found =>
            simp only [hFind, Except.ok.injEq] at h
            exact completes_of_find? (h ▸ hFind)

end Location

/- Text that is no document is not refused for its path. -/
theorem Document.parse_ne_unsupportedExtension
    (format : Format)
    (text source path : String) :
    Document.parse format text source ≠
      .error (.unsupportedExtension path) := by
  unfold Document.parse Document.ofData
  cases Document.parseJson? format text with
  | none => simp
  | some j =>
      cases hDocument : Document.ofJson? j <;> simp [hDocument]

/- A path without a format is refused for its extension. -/
theorem Document.load_of_no_format
    {files : Files}
    {location : Location}
    {path : String}
    (hResolve : location.resolve files = .ok path)
    (hFormat : Format.ofPath? path = none) :
    Document.load files location =
      .error (.unsupportedExtension path) := by
  unfold Document.load
  rw [hResolve]
  simp only [bind, Except.bind, hFormat]

/- A path with a format is not. -/
theorem Document.load_ne_unsupportedExtension
    {files : Files}
    {location : Location}
    {path : String}
    {format : Format}
    (hResolve : location.resolve files = .ok path)
    (hFormat : Format.ofPath? path = some format)
    (other : String) :
    Document.load files location ≠
      .error (.unsupportedExtension other) := by
  unfold Document.load
  rw [hResolve]
  simp only [bind, Except.bind, hFormat]
  cases readText files path location.maxSize with
  | error e => simp
  | ok text =>
      have hParse := Document.parse_ne_unsupportedExtension
        format text path other
      dsimp only
      cases hDocument : Document.parse format text path with
      | error e =>
          rw [hDocument] at hParse
          simpa using hParse
      | ok document => simp

/-
  What is loaded from a path without a format is refused for
  its extension, and nothing else is.
-/
theorem Catalog.load_eq_unsupportedExtension_iff
    {files : Files}
    {location : Location}
    {path : String}
    (hResolve : location.resolve files = .ok path)
    (registry : Registry)
    (other : String) :
    Catalog.load files registry location =
        .error (.unsupportedExtension other) ↔
      Format.ofPath? path = none ∧ other = path := by
  unfold Catalog.load
  cases hFormat : Format.ofPath? path with
  | none =>
      rw [Document.load_of_no_format hResolve hFormat]
      simp [Except.map, eq_comm]
  | some format =>
      have hLoad := Document.load_ne_unsupportedExtension
        hResolve hFormat other
      cases hDocument : Document.load files location with
      | error e =>
          rw [hDocument] at hLoad
          simpa [Except.map] using hLoad
      | ok document => simp [Except.map]

/-
  A location that leads to a path leads to a regular file,
  either under the base path itself or under the first of
  its completions that there is. The format of the path is
  known, so that the path is not refused when the document
  is loaded, unless the base path was open and had to be
  completed.
-/
theorem Location.format_of_resolved
    {files : Files}
    {location : Location}
    {path : String}
    (hResolve : location.resolve files = .ok path)
    (registry : Registry) :
    ∃ base, location.path = some base ∧
      files.isFile path = true ∧
      (path = base ∨ Completes files base path) ∧
      ((Format.ofPath? path).isSome = true ↔
        path = base ∨ ¬ Path.IsOpen base) ∧
      ∀ other,
        Catalog.load files registry location =
            .error (.unsupportedExtension other) ↔
          other = path ∧ path ≠ base ∧ Path.IsOpen base := by
  rcases resolve_eq_ok hResolve with ⟨base, hBase, hCases⟩
  have hPlace : files.isFile path = true ∧
      (path = base ∨ Completes files base path) ∧
      ((Format.ofPath? path).isSome = true ↔
        path = base ∨ ¬ Path.IsOpen base) := by
    rcases hCases with
      ⟨rfl, hFile, _, hFormat⟩ | ⟨_, hCompletes⟩
    · exact ⟨hFile, Or.inl rfl, by simp [hFormat]⟩
    · rcases hCompletes.exists_extension with
        ⟨extension, hExtension, hPath⟩
      have hFormat :=
        Format.ofPath?_withExtension hExtension base
      rw [← hPath] at hFormat
      refine ⟨hCompletes.isFile, Or.inr hCompletes, ?_⟩
      rw [hFormat]
      simp [hCompletes.ne]
  rcases hPlace with ⟨hFile, hWhere, hFormat⟩
  refine ⟨base, hBase, hFile, hWhere, hFormat, fun other => ?_⟩
  rw [Catalog.load_eq_unsupportedExtension_iff hResolve,
    ← Option.not_isSome_iff_eq_none, hFormat, not_or,
    Classical.not_not, and_comm]

/- One file with a path, and nothing else. -/
def Files.single
    (path : String) : Files :=
  fun other =>
    if other = path then .ok (.file 2 (.bytes [123, 125]))
    else .error .missing

/- The document `words.yaml` is found as `words`. -/
theorem Location.format_of_resolved_words :
    (Location.ofPath "in/words").resolve
        (Files.single "in/words.yaml") = .ok "in/words.yaml" ∧
      Completes (Files.single "in/words.yaml") "in/words"
        "in/words.yaml" ∧
      (Format.ofPath? "in/words.yaml").isSome = true ∧
      ∀ other,
        Catalog.load (Files.single "in/words.yaml")
            Registry.usual (Location.ofPath "in/words") ≠
          .error (.unsupportedExtension other) := by
  have hResolve : (Location.ofPath "in/words").resolve
      (Files.single "in/words.yaml") =
        .ok "in/words.yaml" := rfl
  have hClosed : ¬ Path.IsOpen "in/words" := by
    unfold Path.IsOpen
    decide
  rcases format_of_resolved hResolve Registry.usual with
    ⟨base, hBase, _, hWhere, hFormat, hLoad⟩
  cases Option.some.inj hBase
  refine ⟨hResolve, hWhere.resolve_left (by decide),
    hFormat.mpr (Or.inr hClosed), fun other hRefused => ?_⟩
  exact hClosed ((hLoad other).mp hRefused).2.2

/-
  A document without a name is found in its directory and
  then refused for its extension, which is the right one.
-/
theorem Location.hidden_document_refused :
    (Location.ofPath "in/").resolve (Files.single "in/.json") =
        .ok "in/.json" ∧
      (Files.single "in/.json").isFile "in/.json" = true ∧
      Format.ofPath? "in/.json" = none ∧
      Catalog.load (Files.single "in/.json") Registry.usual
          (Location.ofPath "in/") =
        .error (.unsupportedExtension "in/.json") :=
  ⟨rfl, rfl, rfl, rfl⟩

end Conform
