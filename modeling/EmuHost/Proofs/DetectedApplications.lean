import EmuHost.Proofs.DirectoryEntries

/-!
# Detected applications

What `Application.detect` makes of a path, as a rule on the file tree that does not mention how the
entries of a directory are listed: the image of a cart is the first of the files in its directory
that have the preferred extension, in the order of the bytes of their names, else the first with the
other one. As there is only one first name, the order of the entries does not matter, and neither do
entries that are not files or have other names. A directory that cannot be listed is an error.

## Key results

- `Application.isImage_foundImage`: the image that is found is the one of the rule
- `Application.IsImage.unique`: there is only one
- `Application.detect_determined`: what is detected at a path
-/

namespace EmuHost

namespace Application

/-! ## The rule -/

/-- An entry of a directory that leads to a file and has an extension. -/
structure IsCandidate (tree : FileTree) (dir : Path) (extension name : String) : Prop where
  entry : name ∈ tree.namesIn dir
  file : tree.isFile (dir.join name) = true
  ends : HasExtension extension name

/-- The first of some names in the order of their bytes. -/
structure IsFirst (Among : String → Prop) (name : String) : Prop where
  among : Among name
  least : ∀ other, Among other → Text.bytes name ≤ Text.bytes other

/-- The image of a cart: the first candidate with the preferred extension, else the first one with
the other extension. -/
inductive IsImage (tree : FileTree) (dir : Path) : Option Path → Prop
  | preferred {name : String} (first : IsFirst (IsCandidate tree dir "istorage") name) :
      IsImage tree dir (some (dir.join name))
  | other {name : String} (without : ∀ name, ¬IsCandidate tree dir "istorage" name)
      (first : IsFirst (IsCandidate tree dir "romfs") name) :
      IsImage tree dir (some (dir.join name))
  | missing (without : ∀ name, ¬IsCandidate tree dir "istorage" name)
      (neither : ∀ name, ¬IsCandidate tree dir "romfs" name) : IsImage tree dir none

/-- Being first only depends on what there is to be first among. -/
theorem IsFirst.congr {Among Other : String → Prop} {name : String} (first : IsFirst Among name)
    (same : ∀ name, Among name ↔ Other name) : IsFirst Other name :=
  ⟨(same name).mp first.among, fun other among => first.least other ((same other).mpr among)⟩

/-- There is one first name, since the order of bytes is total. -/
theorem IsFirst.unique {Among : String → Prop} {name other : String} (first : IsFirst Among name)
    (also : IsFirst Among other) : name = other :=
  le_antisymm (Text.bytes_le_iff.mp (first.least other also.among))
    (Text.bytes_le_iff.mp (also.least name first.among))

/-- A directory has one image. -/
theorem IsImage.unique {tree : FileTree} {dir : Path} {image another : Option Path}
    (isImage : IsImage tree dir image) (also : IsImage tree dir another) : image = another := by
  -- two rules that both apply agree, and any others exclude each other by their candidates
  cases isImage with
  | preferred first =>
    cases also with
    | preferred other => rw [first.unique other]
    | other without _ => exact absurd first.among (without _)
    | missing without _ => exact absurd first.among (without _)
  | other without first =>
    cases also with
    | preferred other => exact absurd other.among (without _)
    | other _ other => rw [first.unique other]
    | missing _ neither => exact absurd first.among (neither _)
  | missing without neither =>
    cases also with
    | preferred other => exact absurd other.among (without _)
    | other _ other => exact absurd other.among (neither _)
    | missing _ _ => rfl

/-- The image depends on the candidates only. -/
theorem IsImage.congr {tree other : FileTree} {dir : Path} {image : Option Path}
    (isImage : IsImage tree dir image)
    (same : ∀ extension ∈ romfsExtensions, ∀ name,
      IsCandidate tree dir extension name ↔ IsCandidate other dir extension name) :
    IsImage other dir image := by
  have preferred := same "istorage" (by decide)
  have next := same "romfs" (by decide)
  cases isImage with
  | preferred first => exact .preferred (first.congr preferred)
  | other without first =>
    exact .other (fun name among => without name ((preferred name).mpr among)) (first.congr next)
  | missing without neither =>
    exact .missing (fun name among => without name ((preferred name).mpr among))
      fun name among => neither name ((next name).mpr among)

/-! ## The search -/

/-- The names of the files in a directory, in order. -/
def sortedFiles (tree : FileTree) (dir : Path) : List String :=
  ((tree.namesIn dir).filter fun name => tree.isFile (dir.join name)).mergeSort
    fun a b => decide (a ≤ b)

/-- The image that is found in a directory whose entries can be listed. -/
def foundImage (tree : FileTree) (dir : Path) : Option Path :=
  (romfsExtensions.findSome? fun wanted =>
    (sortedFiles tree dir).find? (hasExtension wanted)).map dir.join

/-- A search needs the listing, and finds the image by it. -/
theorem findRomfs_eq (tree : FileTree) (dir : Path) :
    findRomfs tree dir =
      match tree.listingError? dir with
      | some e => .error (.core [e.message])
      | none => .ok (foundImage tree dir) := by
  rw [findRomfs, FileTree.list]
  cases tree.listingError? dir <;> rfl

section

variable {tree : FileTree} {dir : Path} {extension name : String}

/-- Candidates are the files in order that end in the extension. -/
theorem isCandidate_iff (named : extension ≠ "") : IsCandidate tree dir extension name ↔
    name ∈ sortedFiles tree dir ∧ hasExtension extension name = true := by
  rw [sortedFiles, List.mem_mergeSort, List.mem_filter, hasExtension_iff named]
  constructor
  · rintro ⟨entry, file, ends⟩
    exact ⟨⟨entry, file⟩, ends⟩
  · rintro ⟨⟨entry, file⟩, ends⟩
    exact ⟨entry, file, ends⟩

/-- The names are in order. -/
theorem sortedFiles_pairwise (tree : FileTree) (dir : Path) :
    (sortedFiles tree dir).Pairwise (· ≤ ·) := by
  have sorted : (sortedFiles tree dir).Pairwise fun a b => decide (a ≤ b) = true :=
    List.pairwise_mergeSort (fun a b c => by simpa using le_trans)
      (fun a b => by simpa using le_total a b) _
  exact sorted.imp of_decide_eq_true

/-- What is found first among the names in order is the first candidate. -/
theorem isFirst_of_find? (named : extension ≠ "")
    (found : (sortedFiles tree dir).find? (hasExtension extension) = some name) :
    IsFirst (IsCandidate tree dir extension) name := by
  obtain ⟨ends, before, after, sorted, skipped⟩ := List.find?_eq_some_iff_append.mp found
  have order := sortedFiles_pairwise tree dir
  -- the list around the find: all before it fail the test, and it is before all behind
  rw [sorted, List.pairwise_append, List.pairwise_cons] at order
  obtain ⟨-, ⟨behind, -⟩, -⟩ := order
  refine ⟨(isCandidate_iff named).mpr ⟨by simp [sorted], ends⟩, fun other candidate => ?_⟩
  obtain ⟨inside, alsoEnds⟩ := (isCandidate_iff named).mp candidate
  rw [Text.bytes_le_iff]
  rw [sorted] at inside
  rcases List.mem_append.mp inside with early | late
  · -- names before it have another extension
    have unwanted := skipped other early
    rw [alsoEnds] at unwanted
    cases unwanted
  · rcases List.mem_cons.mp late with rfl | late
    · exact le_refl _
    · exact behind other late

/-- If none is found then none of the files is a candidate. -/
theorem not_isCandidate_of_find? (named : extension ≠ "")
    (missing : (sortedFiles tree dir).find? (hasExtension extension) = none) (name : String) :
    ¬IsCandidate tree dir extension name := by
  intro candidate
  obtain ⟨inside, ends⟩ := (isCandidate_iff named).mp candidate
  exact List.find?_eq_none.mp missing name inside ends

end

/-- The image that is found is the one of the rule. -/
theorem isImage_foundImage (tree : FileTree) (dir : Path) :
    IsImage tree dir (foundImage tree dir) := by
  -- the extensions are tried in their order, the second one only after the first has nothing
  rw [foundImage, romfsExtensions]
  simp only [List.findSome?_cons, List.findSome?_nil]
  split
  · rename_i name found
    exact .preferred (isFirst_of_find? (by decide) found)
  · rename_i without
    have without := not_isCandidate_of_find? (by decide) without
    split
    · rename_i name found
      exact .other without (isFirst_of_find? (by decide) found)
    · rename_i neither
      exact .missing without (not_isCandidate_of_find? (by decide) neither)

/-- A directory with the same candidates has the same image, whatever else is in it. -/
theorem foundImage_congr {tree other : FileTree} {dir : Path}
    (same : ∀ extension ∈ romfsExtensions, ∀ name,
      IsCandidate tree dir extension name ↔ IsCandidate other dir extension name) :
    foundImage tree dir = foundImage other dir :=
  ((isImage_foundImage tree dir).congr same).unique (isImage_foundImage other dir)

/-- A candidate of a proper name is a file in the directory itself, or a link to one. -/
theorem IsCandidate.entry_or_link {tree : FileTree} {dir : Path} {extension name : String}
    (candidate : IsCandidate tree dir extension name) (isName : Path.IsName name) :
    ∃ here, tree.place .look dir = .ok here ∧
      ((∃ content, tree.root.find? (here ++ [name]) = some (.file content)) ∨
        ∃ target, tree.root.find? (here ++ [name]) = some (.link target)) := by
  obtain ⟨here, leads, inside⟩ := FileTree.exists_of_mem_namesIn candidate.entry
  exact ⟨here, leads, FileTree.entry_of_isFile leads inside isName candidate.file⟩

/-- A file in the directory itself is a candidate, if its path is one that the file system takes. -/
theorem isCandidate_of_entry {tree : FileTree} {dir : Path} {extension name : String}
    {here : FileTree.Place} {content : ByteArray} (leads : tree.place .look dir = .ok here)
    (isName : Path.IsName name)
    (entry : tree.root.find? (here ++ [name]) = some (.file content))
    (unmarked : '\x00' ∉ name.toList) (short : name.utf8ByteSize ≤ FileTree.maxNameSize)
    (fits : (dir.join name).utf8ByteSize ≤ FileTree.maxPathSize)
    (ends : HasExtension extension name) : IsCandidate tree dir extension name where
  entry := FileTree.mem_namesIn leads entry
  file := FileTree.isFile_of_entry leads isName entry unmarked short fits
  ends := ends

/-! ## Detection -/

/-- What is detected at a path. -/
structure Detects (tree : FileTree) (path : Path) : Prop where
  /-- A directory is a cart with the image of the rule, if its entries can be listed. -/
  cart : tree.isDirectory path = true → tree.listingError? path = none →
    ∃ image, detect tree path = .ok (.cart path image) ∧ IsImage tree path image
  /-- If they cannot, the error says what the system says. -/
  unreadable : ∀ e, tree.isDirectory path = true → tree.listingError? path = some e →
    detect tree path = .error (.core [e.message])
  /-- What may be an image is in the directory itself, and neither a directory nor a link that does
  not lead to a file. -/
  candidate : ∀ extension name, IsCandidate tree path extension name → Path.IsName name →
    ∃ here, tree.place .look path = .ok here ∧
      ((∃ content, tree.root.find? (here ++ [name]) = some (.file content)) ∨
        ∃ target, tree.root.find? (here ++ [name]) = some (.link target))
  /-- Every file in the directory itself with the extension may be an image. -/
  regular : ∀ here extension name content, tree.place .look path = .ok here → Path.IsName name →
    tree.root.find? (here ++ [name]) = some (.file content) → '\x00' ∉ name.toList →
    name.utf8ByteSize ≤ FileTree.maxNameSize →
    (path.join name).utf8ByteSize ≤ FileTree.maxPathSize → HasExtension extension name →
    IsCandidate tree path extension name
  /-- A file is of the kind that the extension of its name says. -/
  file : tree.isFile path = true →
    let named (extension : String) : Prop :=
      ∃ name, path.fileName? = some name ∧ HasExtension extension name
    ∃ app, detect tree path = .ok app ∧ (app = .xci path ↔ named "xci") ∧
      (app = .nca path ↔ named "nca") ∧ (app = .nsp path ↔ named "nsp" ∨ named "pfs0") ∧
      (app = .homebrew path ↔
        ¬named "xci" ∧ ¬named "nca" ∧ ¬named "nsp" ∧ ¬named "pfs0")
  /-- The path of a file ends in its name. -/
  fileName : tree.Sound → tree.isFile path = true →
    ∃ name, path.EndsIn name ∧ path.fileName? = some name
  /-- There is nothing else to detect. -/
  unsupported : tree.isDirectory path = false → tree.isFile path = false →
    detect tree path = .error (.unsupportedApplication path)
  /-- The order in which directories list their entries does not matter. -/
  rearranged : ∀ other, tree.Rearranges other → detect other path = detect tree path
  /-- Entries that may not be an image do not matter. -/
  others : ∀ other : FileTree, tree.isDirectory path = true → other.isDirectory path = true →
    other.listingError? path = tree.listingError? path →
    (∀ extension ∈ romfsExtensions, ∀ name,
      IsCandidate tree path extension name ↔ IsCandidate other path extension name) →
    detect other path = detect tree path

/-- What is detected at a directory is up to the list of its entries. -/
theorem detect_of_isDirectory {tree : FileTree} {path : Path}
    (isDirectory : tree.isDirectory path = true) :
    detect tree path =
      match tree.listingError? path with
      | some e => .error (.core [e.message])
      | none => .ok (.cart path (foundImage tree path)) := by
  rw [detect, if_pos isDirectory, findRomfs_eq]
  cases tree.listingError? path <;> rfl

/-- The order of entries is of no account. -/
theorem detect_rearranged {tree other : FileTree} (rearranges : tree.Rearranges other)
    (path : Path) : detect other path = detect tree path := by
  have image : foundImage tree path = foundImage other path :=
    foundImage_congr fun extension _ name =>
      ⟨fun ⟨entry, file, ends⟩ =>
        ⟨(rearranges.namesIn path).mem_iff.mp entry, rearranges.isFile _ ▸ file, ends⟩,
      fun ⟨entry, file, ends⟩ =>
        ⟨(rearranges.namesIn path).mem_iff.mpr entry, rearranges.isFile _ ▸ file, ends⟩⟩
  rw [detect, detect, findRomfs_eq, findRomfs_eq, image, rearranges.listingError?,
    rearranges.isDirectory, rearranges.isFile]

/-- What is detected at a path is determined by where the path leads, the extensions of names and
the order of their bytes. -/
theorem detect_determined (tree : FileTree) (path : Path) : Detects tree path where
  -- one field for each kind of path, and what a change of the tree does to all of them
  cart isDirectory listed :=
    ⟨foundImage tree path, by rw [detect_of_isDirectory isDirectory, listed],
      isImage_foundImage tree path⟩
  unreadable e isDirectory failed := by rw [detect_of_isDirectory isDirectory, failed]
  candidate _ _ candidate isName := candidate.entry_or_link isName
  regular _ _ _ _ leads isName entry unmarked short fits ends :=
    isCandidate_of_entry leads isName entry unmarked short fits ends
  file isFile := by
    have noDirectory := FileTree.isDirectory_of_isFile isFile
    refine ⟨ofFile path, ?_, ofFile_iff path⟩
    rw [detect, noDirectory, isFile]
    rfl
  fileName sound isFile := sound.endsIn_of_isFile isFile
  unsupported noDirectory noFile := by
    rw [detect, noDirectory, noFile]
    rfl
  rearranged other rearranges := detect_rearranged rearranges path
  others other isDirectory alsoDirectory listing same := by
    rw [detect_of_isDirectory isDirectory, detect_of_isDirectory alsoDirectory, listing,
      foundImage_congr same]

/-- A directory with a file and a link to it, and with entries that are no images: a name that is
only an extension, a directory, a link to nothing, and a file with the other extension. -/
def cartEntries : List (String × Node) :=
  [("b.istorage", .file ⟨#[]⟩), ("A.ISTORAGE", .link "b.istorage"), (".istorage", .file ⟨#[]⟩),
    ("0.istorage", .directory []), ("1.istorage", .link "gone"), ("0.romfs", .file ⟨#[]⟩)]

/-- A tree with these entries at its root, in a given order. -/
def cartTree (entries : List (String × Node)) : FileTree where
  root := .directory entries

/-- Case does not matter for the extension, and bytes decide between the two names that have it. -/
theorem isImage_cartEntries : IsImage (cartTree cartEntries) "/" (some "/A.ISTORAGE") := by
  have first : IsFirst (IsCandidate (cartTree cartEntries) "/" "istorage") "A.ISTORAGE" := by
    refine ⟨⟨?_, by rfl, (hasExtension_iff (by decide)).mp (by decide)⟩, ?_⟩
    · show "A.ISTORAGE" ∈ cartEntries.map Prod.fst
      decide
    · rintro other ⟨entry, file, ends⟩
      have entry : other ∈ cartEntries.map Prod.fst := entry
      rw [← hasExtension_iff (by decide)] at ends
      simp only [cartEntries, List.map_cons, List.map_nil, List.mem_cons, List.not_mem_nil,
        or_false] at entry
      -- only the first two are candidates
      rcases entry with rfl | rfl | rfl | rfl | rfl | rfl
      · exact Text.bytes_le_iff.mpr (by decide)
      · exact List.le_refl _
      · exact absurd ends (by decide)
      · cases file
      · cases file
      · exact absurd ends (by decide)
  exact .preferred first

/-- The link comes first, also when the entries are listed backwards. -/
theorem detect_determined_cart :
    FileTree.isDirectory (cartTree cartEntries) "/" = true ∧
      FileTree.listingError? (cartTree cartEntries) "/" = none ∧
      detect (cartTree cartEntries) "/" = .ok (.cart "/" (some "/A.ISTORAGE")) ∧
      detect (cartTree cartEntries.reverse) "/" = .ok (.cart "/" (some "/A.ISTORAGE")) := by
  have isDirectory : FileTree.isDirectory (cartTree cartEntries) "/" = true := by rfl
  have listed : FileTree.listingError? (cartTree cartEntries) "/" = none := by rfl
  have detects := detect_determined (cartTree cartEntries) "/"
  have rearranges : FileTree.Rearranges (cartTree cartEntries) (cartTree cartEntries.reverse) :=
    FileTree.rearranges_root {} (List.reverse_perm _).symm (by decide)
  obtain ⟨image, detected, isImage⟩ := detects.cart isDirectory listed
  rw [isImage.unique isImage_cartEntries] at detected
  exact ⟨isDirectory, listed, detected, by rw [detects.rearranged _ rearranges, detected]⟩

end Application

end EmuHost
