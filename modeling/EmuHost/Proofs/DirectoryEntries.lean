import EmuHost.Proofs.FileNames
import EmuHost.Proofs.WrittenFiles

/-!
# Entries of directories

What the path of an entry leads to, given where the path of its directory leads: the walk goes on in
the directory with the links that are left. So a file in a directory is found under its own name, a
directory is no file, and a link counts as what it leads to.

A walk looks at one name at a time, so it goes the same way in a tree whose directories list their
entries in another order (`FileTree.Rearranges`).

## Key results

- `FileTree.walk_concat`, `FileTree.place_join`: how a walk goes on in a directory
- `FileTree.entry_of_isFile`, `FileTree.isFile_of_entry`: which entries count as files
- `FileTree.Sound.endsIn_of_isFile`: the path of a file ends in a name
- `FileTree.Rearranges.walk`, `FileTree.Rearranges.looks`: the order of entries does not matter
-/

namespace EmuHost

namespace FileTree

variable {tree : FileTree}

/-! ## Walking on -/

/-- A walk that has led to a directory goes on there, if one more name is added. A slash at the end
of the path of the directory makes no difference. -/
theorem walkParts_concat {behind : Place → List String → Except FileError Place} {links : Nat}
    {slash : List String} {start here : Place} {parts : List String} {name : String}
    (self : ∀ start parts, tree.walkParts .look behind start parts =
      tree.walk .look links start parts)
    (on : ∀ start parts, behind start (parts ++ slash) = .ok here →
      ∃ left ≤ links, behind start (parts ++ [name]) = tree.walk .look left here [name])
    (optional : slash = [] ∨ slash = [""])
    (leads : tree.walkParts .look behind start (parts ++ slash) = .ok here)
    (inside : tree.HasDirectory here) :
    ∃ left ≤ links, tree.walkParts .look behind start (parts ++ [name]) =
      tree.walk .look left here [name] := by
  -- on the parts, following the recursion of the walk: whatever leads on leads to the directory
  induction parts generalizing start with
  | nil =>
    -- the walk ends here, and the slash at most looks for the directory once more
    have same : start = here := by
      rcases optional with rfl | rfl
      · exact Except.ok.inj leads
      · simpa [walkParts] using leads
    exact ⟨links, Nat.le_refl _, by rw [self, same]; rfl⟩
  | cons part rest ih =>
    obtain ⟨entries, directory⟩ := inside
    rw [List.cons_append] at leads ⊢
    unfold walkParts at leads ⊢
    simp only [reduceCtorEq, decide_false, Bool.and_false, Bool.false_eq_true, if_false] at leads ⊢
    -- a part that is skipped, one that goes up, and one that is too long, before what is found
    -- there
    split
    · rename_i skipped
      rw [if_pos skipped] at leads
      exact ih leads
    rename_i named
    rw [if_neg named] at leads
    split
    · rename_i up
      rw [if_pos up] at leads
      exact ih leads
    rename_i down
    rw [if_neg down] at leads
    split
    · rename_i long
      rw [if_pos long] at leads
      cases leads
    rename_i short
    rw [if_neg short] at leads
    -- nothing but a directory or a link leads to the directory
    split at leads
    · rename_i missing
      split at leads
      · cases leads
        rw [missing] at directory
        cases directory
      · cases leads
    · rename_i found
      exact ih leads
    · rename_i content found
      split at leads
      · cases leads
        rw [found] at directory
        cases directory
      · cases leads
    · rename_i target found
      rw [← List.append_assoc] at leads ⊢
      exact on _ _ leads

/-- A walk that has led to a directory goes on there, with the links that it has left. -/
theorem walk_concat {links : Nat} {slash : List String} {start here : Place} {parts : List String}
    (name : String) (optional : slash = [] ∨ slash = [""])
    (leads : tree.walk .look links start (parts ++ slash) = .ok here)
    (inside : tree.HasDirectory here) :
    ∃ left ≤ links, tree.walk .look links start (parts ++ [name]) =
      tree.walk .look left here [name] := by
  -- on the links: each one starts a walk over its target with one link fewer
  induction links generalizing start parts with
  | zero =>
    refine walkParts_concat (fun _ _ => rfl) (fun _ _ walks => ?_) optional leads inside
    cases walks
  | succ links ih =>
    refine walkParts_concat (fun _ _ => rfl) (fun start parts walks => ?_) optional leads inside
    obtain ⟨left, fewer, goesOn⟩ := ih walks
    exact ⟨left, by omega, goesOn⟩

end FileTree

namespace Path

/-- The path of an entry has the parts of its directory's path, but for a slash at the end, and the
name. -/
theorem parts_join {dir : Path} (named : dir ≠ "") {name : String} (plain : '/' ∉ name.toList) :
    ∃ front slash, dir.parts = front ++ slash ∧ (slash = [] ∨ slash = [""]) ∧
      (dir.join name).parts = front ++ [name] := by
  have nonempty : dir.isEmpty = false := by simpa using named
  -- a path that ends in a slash has an empty last part, which the name takes the place of
  by_cases ends : dir.toList.getLast? = some '/'
  · obtain ⟨above, split⟩ := List.getLast?_eq_some_iff.mp ends
    have joined : (dir.join name).toList = above ++ '/' :: name.toList := by
      simp [join, nonempty, split]
    have closed : dir.toList = above ++ '/' :: "".toList := split
    exact ⟨_, [""], parts_of_slash closed (by simp), .inr rfl, parts_of_slash joined plain⟩
  · have joined : (dir.join name).toList = dir.toList ++ '/' :: name.toList := by
      simp [join, nonempty, ends]
    have whole := parts_of_slash joined plain
    rw [String.ofList_toList] at whole
    exact ⟨dir.parts, [], (List.append_nil _).symm, .inl rfl, whole⟩

/-- The path of an entry is that of its directory with something behind it that ends in the name. -/
theorem exists_join (dir : Path) (name : String) :
    ∃ slash, (slash = [] ∨ slash = ['/']) ∧
      (dir.join name).toList = dir.toList ++ (slash ++ name.toList) := by
  unfold join
  split
  · exact ⟨[], .inl rfl, by rw [String.toList_append, List.nil_append]⟩
  · refine ⟨['/'], .inr rfl, ?_⟩
    rw [String.toList_append, String.toList_append, List.append_assoc]
    rfl

/-- A name behind it does not make a path absolute. -/
theorem join_isAbsolute {dir : Path} (named : dir ≠ "") (name : String) :
    (dir.join name).isAbsolute = dir.isAbsolute := by
  obtain ⟨slash, -, joined⟩ := exists_join dir name
  have nonempty : dir.toList ≠ [] := by rwa [Ne, String.toList_eq_nil_iff]
  rw [isAbsolute, isAbsolute, joined, List.head?_append_of_ne_nil _ nonempty]

end Path

namespace FileTree

variable {tree : FileTree}

/-- What the text of a path must be like to lead anywhere. -/
theorem place_ok_iff {purpose : Purpose} {p : Path} {place : Place} :
    tree.place purpose p = .ok place ↔
      (p ≠ "" ∧ '\x00' ∉ p.toList ∧ p.utf8ByteSize ≤ maxPathSize) ∧
        tree.walk purpose maxLinks (if p.isAbsolute then [] else tree.workingDirectory) p.parts =
          .ok place := by
  have empty : p.isEmpty = true ↔ p = "" := by simp
  have marked : p.toList.contains '\x00' = true ↔ '\x00' ∈ p.toList := by simp
  unfold FileTree.place
  simp only [Bool.or_eq_true, empty, marked]
  -- in the order of the checks: the text, its length, then the walk
  split
  · rename_i bad
    constructor
    · nofun
    · rintro ⟨⟨named, unmarked, -⟩, -⟩
      exact absurd bad (not_or.mpr ⟨named, unmarked⟩)
  · rename_i good
    obtain ⟨named, unmarked⟩ := not_or.mp good
    split
    · rename_i long
      constructor
      · nofun
      · rintro ⟨⟨-, -, short⟩, -⟩
        omega
    · rename_i short
      simp only [named, unmarked, Nat.not_lt.mp short, not_false_eq_true, ne_eq, true_and]

/-- The path of an entry is walked on from the place of its directory. -/
theorem place_join {dir : Path} {here : Place} {name : String}
    (leads : tree.place .look dir = .ok here) (inside : tree.HasDirectory here)
    (isName : Path.IsName name) :
    ∃ left ≤ maxLinks, ∀ place, tree.place .look (dir.join name) = .ok place ↔
      ('\x00' ∉ name.toList ∧ (dir.join name).utf8ByteSize ≤ maxPathSize) ∧
        tree.walk .look left here [name] = .ok place := by
  obtain ⟨⟨named, unmarked, -⟩, walks⟩ := place_ok_iff.mp leads
  obtain ⟨front, slash, parts, optional, joined⟩ := Path.parts_join named isName.whole
  rw [parts] at walks
  -- the walk goes on in the directory, so only the text of the path is left to compare
  obtain ⟨left, few, goesOn⟩ := walk_concat name optional walks inside
  refine ⟨left, few, fun place => ?_⟩
  obtain ⟨gap, between, text⟩ := Path.exists_join dir name
  have nonempty : dir.join name ≠ "" := by
    rw [Ne, ← String.toList_eq_nil_iff, text]
    simp [named]
  have marks : '\x00' ∈ (dir.join name).toList ↔ '\x00' ∈ name.toList := by
    rcases between with rfl | rfl <;> simp [text, unmarked]
  rw [place_ok_iff, joined, Path.join_isAbsolute named, goesOn, marks]
  simp only [ne_eq, nonempty, not_false_eq_true, true_and]

/-! ## What entries lead to -/

/-- Only a directory has names in it. -/
theorem exists_of_mem_namesIn {p : Path} {name : String} (entry : name ∈ tree.namesIn p) :
    ∃ place, tree.place .look p = .ok place ∧ tree.HasDirectory place := by
  unfold FileTree.namesIn node? at entry
  split at entry
  · rename_i entries found
    split at found
    · rename_i place leads
      exact ⟨place, leads, entries, found⟩
    · cases found
  · cases entry

/-- What is in a directory is listed in it. -/
theorem mem_namesIn {p : Path} {here : Place} {name : String} {node : Node}
    (leads : tree.place .look p = .ok here)
    (entry : tree.root.find? (here ++ [name]) = some node) : name ∈ tree.namesIn p := by
  rw [Node.find?_append, Option.bind_eq_some_iff] at entry
  obtain ⟨parent, above, inside⟩ := entry
  obtain ⟨entries, child, rfl, found, -⟩ := Node.directory_of_find? inside
  simp only [FileTree.namesIn, node?, leads, above]
  obtain ⟨front, back, rfl, -⟩ := List.lookup_eq_some_iff.mp found
  simp

/-- A file is no directory. -/
theorem isDirectory_of_isFile {p : Path} (isFile : tree.isFile p = true) :
    tree.isDirectory p = false := by
  unfold FileTree.isFile at isFile
  unfold FileTree.isDirectory
  split at isFile
  · rename_i found
    rw [found]
  · cases isFile

/-- Only a path that leads to one is a file's. -/
theorem exists_of_isFile {p : Path} (isFile : tree.isFile p = true) :
    ∃ place content, tree.place .look p = .ok place ∧
      tree.root.find? place = some (.file content) := by
  unfold FileTree.isFile node? at isFile
  split at isFile
  · rename_i content found
    split at found
    · rename_i place leads
      exact ⟨place, content, leads, found⟩
    · cases found
  · cases isFile

/-- A name leads to its place, unless there is a link. -/
theorem walk_name {left : Nat} {here : Place} {name : String} (isName : Path.IsName name)
    (plain : ∀ target, tree.root.find? (here ++ [name]) ≠ some (.link target)) :
    tree.walk .look left here [name] =
      if maxNameSize < name.utf8ByteSize then .error .nameTooLong else .ok (here ++ [name]) := by
  have walks (behind : Place → List String → Except FileError Place) :
      tree.walkParts .look behind here [name] =
        if maxNameSize < name.utf8ByteSize then .error .nameTooLong else .ok (here ++ [name]) := by
    unfold walkParts
    rw [if_neg (not_or.mpr ⟨isName.named, isName.notHere⟩), if_neg isName.notAbove]
    simp only [reduceCtorEq, decide_false, Bool.and_false, Bool.false_eq_true, if_false]
    split
    · rfl
    · cases found : tree.root.find? (here ++ [name]) with
      | none => rfl
      | some node =>
        cases node with
        | directory entries => rfl
        | file content => rfl
        | link target => exact absurd found (plain target)
  cases left with
  | zero => exact walks _
  | succ left => exact walks _

/-- What the path of an entry leads to is a file only if the entry is a file or a link. -/
theorem entry_of_isFile {dir : Path} {here : Place} {name : String}
    (leads : tree.place .look dir = .ok here) (inside : tree.HasDirectory here)
    (isName : Path.IsName name) (isFile : tree.isFile (dir.join name) = true) :
    (∃ content, tree.root.find? (here ++ [name]) = some (.file content)) ∨
      ∃ target, tree.root.find? (here ++ [name]) = some (.link target) := by
  -- anything else but a link would be walked past the end
  by_contra neither
  obtain ⟨notFile, notLink⟩ := not_or.mp neither
  obtain ⟨left, -, place⟩ := place_join leads inside isName
  obtain ⟨reached, content, joined, found⟩ := exists_of_isFile isFile
  obtain ⟨-, walks⟩ := (place reached).mp joined
  rw [walk_name isName fun target link => notLink ⟨target, link⟩] at walks
  split at walks
  · cases walks
  · cases walks
    exact notFile ⟨content, found⟩

/-- A file in a directory is found under its name. -/
theorem isFile_of_entry {dir : Path} {here : Place} {name : String} {content : ByteArray}
    (leads : tree.place .look dir = .ok here) (isName : Path.IsName name)
    (entry : tree.root.find? (here ++ [name]) = some (.file content))
    (unmarked : '\x00' ∉ name.toList) (short : name.utf8ByteSize ≤ maxNameSize)
    (fits : (dir.join name).utf8ByteSize ≤ maxPathSize) :
    tree.isFile (dir.join name) = true := by
  have inside : tree.HasDirectory here := Node.parent_directory entry
  obtain ⟨left, -, place⟩ := place_join leads inside isName
  have walks : tree.walk .look left here [name] = .ok (here ++ [name]) := by
    rw [walk_name isName (by rw [entry]; nofun), if_neg (Nat.not_lt.mpr short)]
  have joined := (place _).mpr ⟨⟨unmarked, fits⟩, walks⟩
  simp only [FileTree.isFile, node?, joined, entry]

/-! ## Paths of files -/

/-- A part that is a step into a directory. -/
def IsStep (part : String) : Prop := ¬(part = "" ∨ part = ".") ∧ part ≠ ".."

/-- The last part of what leads to a file is a step: slashes and dots only lead to directories. -/
theorem walkParts_last {behind : Place → List String → Except FileError Place} {start place : Place}
    {parts : List String} {content : ByteArray}
    (on : ∀ start parts, tree.HasDirectory start → behind start parts = .ok place →
      ∃ last, parts.getLast? = some last ∧ IsStep last)
    (inside : tree.HasDirectory start) (walks : tree.walkParts .look behind start parts = .ok place)
    (found : tree.root.find? place = some (.file content)) :
    ∃ last, parts.getLast? = some last ∧ IsStep last := by
  -- a part in front does not change the last one
  have goesOn {part : String} {rest : List String}
      (ends : ∃ last, rest.getLast? = some last ∧ IsStep last) :
      ∃ last, (part :: rest).getLast? = some last ∧ IsStep last := by
    obtain ⟨last, ends, step⟩ := ends
    exact ⟨last, by rw [List.getLast?_cons, ends]; rfl, step⟩
  induction parts generalizing start with
  | nil =>
    -- the walk has not left the directory that it started in
    cases walks
    obtain ⟨entries, directory⟩ := inside
    rw [found] at directory
    cases directory
  | cons part rest ih =>
    unfold walkParts at walks
    simp only [reduceCtorEq, decide_false, Bool.and_false, Bool.false_eq_true, if_false] at walks
    split at walks
    · exact goesOn (ih inside walks)
    rename_i named
    split at walks
    · exact goesOn (ih inside.dropLast walks)
    rename_i down
    split at walks
    · cases walks
    split at walks
    · rename_i missing
      split at walks
      · cases walks
        rw [missing] at found
        cases found
      · cases walks
    · rename_i entries directory
      exact goesOn (ih ⟨entries, directory⟩ walks)
    · split at walks
      · rename_i empty
        rw [List.isEmpty_iff.mp empty]
        exact ⟨part, rfl, named, down⟩
      · cases walks
    · rename_i target link
      cases rest with
      | nil => exact ⟨part, rfl, named, down⟩
      | cons next more =>
        have start' : tree.HasDirectory (if target.isAbsolute then [] else start) := by
          split
          · exact inside.root
          · exact inside
        obtain ⟨last, ends, step⟩ := on _ _ start' walks
        rw [List.getLast?_append_of_ne_nil _ (List.cons_ne_nil next more)] at ends
        exact goesOn ⟨last, ends, step⟩

/-- The last part of what leads to a file is a step, over however many links. -/
theorem walk_last {links : Nat} {start place : Place} {parts : List String} {content : ByteArray}
    (inside : tree.HasDirectory start) (walks : tree.walk .look links start parts = .ok place)
    (found : tree.root.find? place = some (.file content)) :
    ∃ last, parts.getLast? = some last ∧ IsStep last := by
  -- on the links again: the target of the last one is the walk that counts
  induction links generalizing start parts with
  | zero =>
    refine walkParts_last (fun _ _ _ walks => ?_) inside walks found
    cases walks
  | succ links ih =>
    exact walkParts_last (fun _ _ inside walks => ih inside walks) inside walks found

/-- The path of a file ends in a name, which is its file name. -/
theorem Sound.endsIn_of_isFile (sound : tree.Sound) {p : Path} (isFile : tree.isFile p = true) :
    ∃ name, p.EndsIn name ∧ p.fileName? = some name := by
  obtain ⟨place, content, leads, found⟩ := exists_of_isFile isFile
  obtain ⟨-, walks⟩ := place_ok_iff.mp leads
  have inside : tree.HasDirectory (if p.isAbsolute then [] else tree.workingDirectory) := by
    split
    · exact HasDirectory.root sound
    · exact sound
  obtain ⟨name, ends, last⟩ := p.exists_endsIn
  obtain ⟨step, same, named, down⟩ := walk_last inside walks found
  obtain rfl := Option.some.inj (last.symm.trans same)
  obtain ⟨nonempty, notHere⟩ := not_or.mp named
  exact ⟨name, ends, Path.fileName?_of_getLast? last ⟨ends.1, nonempty, notHere, down⟩⟩

end FileTree

/-! ## The order of entries -/

/-- Two nodes are alike but for the order in which a directory lists its entries. -/
inductive Node.Alike : Node → Node → Prop
  | file (content : ByteArray) : Alike (.file content) (.file content)
  | link (target : Path) : Alike (.link target) (.link target)
  | directory {entries others : List (String × Node)}
      (listed : (entries.map Prod.fst).Perm (others.map Prod.fst)) :
      Alike (.directory entries) (.directory others)

/-- A node is like itself. -/
theorem Node.Alike.refl (node : Node) : node.Alike node := by
  cases node with
  | file content => exact .file content
  | link target => exact .link target
  | directory entries => exact .directory (.refl _)

/-- The order of entries does not matter to what is under a name, if no two have the same. -/
theorem Node.lookup_perm {entries others : List (String × Node)} (listed : entries.Perm others)
    (distinct : (entries.map Prod.fst).Nodup) (name : String) :
    entries.lookup name = others.lookup name := by
  -- on the permutation, which is made of swaps of neighbours
  induction listed with
  | nil => rfl
  | cons entry _ ih =>
    rw [List.map_cons, List.nodup_cons] at distinct
    rw [List.lookup_cons, List.lookup_cons, ih distinct.2]
  | swap first second rest =>
    have apart : first.1 ≠ second.1 := by
      rw [List.map_cons, List.map_cons, List.nodup_cons] at distinct
      intro same
      exact distinct.1 (by simp [same])
    obtain ⟨x, node⟩ := first
    obtain ⟨y, other⟩ := second
    simp only [List.lookup_cons]
    -- at most one of the two has the name
    by_cases isFirst : name = x
    · have notSecond : (name == y) = false := by simpa [isFirst] using apart
      rw [notSecond]
    · have notFirst : (name == x) = false := by simpa using isFirst
      rw [notFirst]
  | trans front _ ihFront ihBack =>
    rw [ihFront distinct]
    exact ihBack ((front.map Prod.fst).nodup_iff.mp distinct)

namespace FileTree

/-- Another tree has the same things at the same places, but its directories may list their entries
in another order. -/
structure Rearranges (tree other : FileTree) : Prop where
  workingDirectory : other.workingDirectory = tree.workingDirectory
  unlisted : other.unlisted = tree.unlisted
  nodes : ∀ place, Option.Rel Node.Alike (tree.root.find? place) (other.root.find? place)

/-- The entries of the root may be listed in any order. -/
theorem rearranges_root (tree : FileTree) {entries others : List (String × Node)}
    (listed : entries.Perm others) (distinct : (entries.map Prod.fst).Nodup) :
    Rearranges { tree with root := .directory entries }
      { tree with root := .directory others } where
  workingDirectory := rfl
  unlisted := rfl
  nodes place := by
    cases place with
    | nil => exact .some (.directory (listed.map Prod.fst))
    | cons name names =>
      show Option.Rel Node.Alike ((entries.lookup name).bind _) ((others.lookup name).bind _)
      rw [Node.lookup_perm listed distinct]
      cases (others.lookup name).bind (Node.find? names) with
      | none => exact .none
      | some node => exact .some (.refl node)

namespace Rearranges

variable {tree other : FileTree} (rearranges : tree.Rearranges other)

include rearranges

/-- Trees that are alike are walked alike, as long as they are behind links. -/
theorem walkParts {purpose : Purpose}
    {behind elsewhere : Place → List String → Except FileError Place}
    (same : ∀ start parts, behind start parts = elsewhere start parts) (here : Place)
    (parts : List String) :
    tree.walkParts purpose behind here parts = other.walkParts purpose elsewhere here parts := by
  obtain rfl : behind = elsewhere := funext₂ same
  induction parts generalizing here with
  | nil => rfl
  -- both walks look up the same place, and branch on the kind of node only
  | cons part rest ih =>
    unfold FileTree.walkParts
    simp only [ih]
    have alike := rearranges.nodes (here ++ [part])
    generalize tree.root.find? (here ++ [part]) = found at alike ⊢
    generalize other.root.find? (here ++ [part]) = found' at alike ⊢
    cases alike with
    | none => rfl
    | some alike => cases alike <;> rfl

/-- So walks agree over any number of links. -/
theorem walk (purpose : Purpose) (links : Nat) (here : Place) (parts : List String) :
    tree.walk purpose links here parts = other.walk purpose links here parts := by
  induction links generalizing here parts with
  | zero => exact rearranges.walkParts (fun _ _ => rfl) here parts
  | succ links ih => exact rearranges.walkParts ih here parts

/-- Paths lead to the same places. -/
theorem place (purpose : Purpose) (p : Path) : tree.place purpose p = other.place purpose p := by
  unfold FileTree.place
  rw [rearranges.workingDirectory]
  simp only [rearranges.walk]

/-- What is at a path is alike. -/
theorem node? (p : Path) : Option.Rel Node.Alike (tree.node? p) (other.node? p) := by
  unfold FileTree.node?
  rw [rearranges.place]
  cases other.place .look p with
  | error e => exact .none
  | ok place => exact rearranges.nodes place

/-- Looking at a path shows the same, but for the order of names. -/
theorem looks (p : Path) : tree.isFile p = other.isFile p ∧
    tree.isDirectory p = other.isDirectory p ∧ (tree.namesIn p).Perm (other.namesIn p) := by
  have alike := rearranges.node? p
  unfold FileTree.isFile FileTree.isDirectory FileTree.namesIn
  generalize tree.node? p = node at alike ⊢
  generalize other.node? p = node' at alike ⊢
  cases alike with
  | none => exact ⟨rfl, rfl, .refl _⟩
  | some alike =>
    cases alike with
    | file content => exact ⟨rfl, rfl, .refl _⟩
    | link target => exact ⟨rfl, rfl, .refl _⟩
    | directory listed => exact ⟨rfl, rfl, listed⟩

/-- The same paths are files. -/
theorem isFile (p : Path) : tree.isFile p = other.isFile p := (rearranges.looks p).1

/-- The same paths are directories. -/
theorem isDirectory (p : Path) : tree.isDirectory p = other.isDirectory p :=
  (rearranges.looks p).2.1

/-- And the same names are listed, in some order. -/
theorem namesIn (p : Path) : (tree.namesIn p).Perm (other.namesIn p) := (rearranges.looks p).2.2

/-- The same directories can be listed. -/
theorem listingError? (p : Path) : tree.listingError? p = other.listingError? p := by
  rw [FileTree.listingError?, FileTree.listingError?, rearranges.place, rearranges.unlisted]

end Rearranges

end FileTree
end EmuHost
