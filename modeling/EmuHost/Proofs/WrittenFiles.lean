import EmuHost.Files.Tree

/-!
# Files that were written

What is written to a path can be read under the same path. A write walks the path to a place and
sets a file there; a look at the same path walks the same way in the new tree, as no directory and
no link on the way has changed, and finds the file at its end.

All this needs a working directory that is one (`FileTree.Sound`). Creating directories keeps it.

## Key results

- `Node.find?_set`: a node that was set is found at its place
- `Node.kind_set`: at other places nothing changes but what is in directories
- `FileTree.read_write`: what was written is read
- `FileTree.Sound.createDirectories`: creating directories keeps the working directory
-/

namespace EmuHost

namespace Node

/-! ## Entries -/

/-- An entry that is set is found under its name. -/
theorem lookup_setEntry (name : String) (node : Node) (entries : List (String × Node)) :
    (setEntry name node entries).lookup name = some node := by
  induction entries with
  | nil => simp only [setEntry, List.lookup_cons, beq_self_eq_true]
  | cons entry entries ih =>
    obtain ⟨n, old⟩ := entry
    by_cases same : n = name
    · subst same
      simp only [setEntry, if_true, List.lookup_cons, beq_self_eq_true]
    · have other : (name == n) = false := beq_false_of_ne (Ne.symm same)
      simp only [setEntry, if_neg same, List.lookup_cons, other, ih]

/-- And all others are found as before. -/
theorem lookup_setEntry_of_ne {name other : String} (apart : other ≠ name) (node : Node)
    (entries : List (String × Node)) :
    (setEntry name node entries).lookup other = entries.lookup other := by
  induction entries with
  | nil =>
    have unlike : (other == name) = false := beq_false_of_ne apart
    simp only [setEntry, List.lookup_cons, unlike, List.lookup_nil]
  | cons entry entries ih =>
    obtain ⟨n, old⟩ := entry
    by_cases same : n = name
    · have unlike : (other == n) = false := by
        rw [same]
        exact beq_false_of_ne apart
      simp only [setEntry, if_pos same, List.lookup_cons, unlike]
    · simp only [setEntry, if_neg same, List.lookup_cons, ih]

/-! ## Places -/

/-- A place is found step by step. -/
theorem find?_append (names more : List String) (node : Node) :
    node.find? (names ++ more) = (node.find? names).bind (·.find? more) := by
  induction names generalizing node with
  | nil => rfl
  | cons name names ih =>
    simp only [List.cons_append, find?]
    cases node.entry? name with
    | none => rfl
    | some child => exact ih child

/-- Only a directory has anything in it. -/
theorem directory_of_find? {node found : Node} {name : String} {names : List String}
    (finds : node.find? (name :: names) = some found) :
    ∃ entries child, node = .directory entries ∧ entries.lookup name = some child ∧
      child.find? names = some found := by
  simp only [find?, Option.bind_eq_bind, Option.bind_eq_some_iff] at finds
  obtain ⟨child, entry, finds⟩ := finds
  cases node with
  | directory entries => exact ⟨entries, child, rfl, entry, finds⟩
  | file content => cases entry
  | link target => cases entry

/-- The place above a node is a directory. -/
theorem parent_directory {node found : Node} {names : List String} {name : String}
    (finds : node.find? (names ++ [name]) = some found) :
    ∃ entries, node.find? names = some (.directory entries) := by
  rw [find?_append, Option.bind_eq_some_iff] at finds
  obtain ⟨parent, above, inside⟩ := finds
  obtain ⟨entries, -, rfl, -⟩ := directory_of_find? inside
  exact ⟨entries, above⟩

/-- A node that was set in a directory is found at its place. -/
theorem find?_set {node : Node} {here : List String} {entries : List (String × Node)}
    (parent : node.find? here = some (.directory entries)) (part : String) (new : Node) :
    (set new (here ++ [part]) node).find? (here ++ [part]) = some new := by
  induction here generalizing node with
  | nil =>
    obtain rfl := Option.some.inj parent
    simp only [List.nil_append, set, find?, entry?, lookup_setEntry, Option.bind_eq_bind,
      Option.bind_some]
  | cons name here ih =>
    obtain ⟨_, child, rfl, entry, above⟩ := directory_of_find? parent
    simp only [List.cons_append, set, find?, entry?, entry, Option.getD_some, lookup_setEntry,
      Option.bind_eq_bind, Option.bind_some]
    exact ih above

/-- A node without what is in it, if it is a directory. -/
def kind : Node → Node
  | .directory _ => .directory []
  | node => node

/-- The kind of a node tells a directory. -/
theorem kind_eq_directory {node : Node} :
    node.kind = .directory [] ↔ ∃ entries, node = .directory entries := by
  cases node with
  | directory entries => exact ⟨fun _ => ⟨entries, rfl⟩, fun _ => rfl⟩
  | file content => exact ⟨nofun, nofun⟩
  | link target => exact ⟨nofun, nofun⟩

/-- Setting a node in a directory changes nothing at the places outside it but what is in
directories. -/
theorem kind_set {node : Node} {here : List String} {entries : List (String × Node)}
    (parent : node.find? here = some (.directory entries)) {part : String} (new : Node)
    {other : List String} (outside : ¬here ++ [part] <+: other) :
    ((set new (here ++ [part]) node).find? other).map kind = (node.find? other).map kind := by
  -- on the way to the directory, with the two places going apart or on together
  induction here generalizing node other with
  | nil =>
    obtain rfl := Option.some.inj parent
    cases other with
    | nil => rfl
    | cons name names =>
      have apart : name ≠ part := by
        rintro rfl
        exact outside (List.cons_prefix_cons.mpr ⟨rfl, List.nil_prefix⟩)
      simp only [List.nil_append, set, find?, entry?, lookup_setEntry_of_ne apart]
  | cons step here ih =>
    obtain ⟨_, child, rfl, entry, above⟩ := directory_of_find? parent
    cases other with
    | nil => rfl
    | cons name names =>
      by_cases same : name = step
      · subst same
        have outside : ¬here ++ [part] <+: names := by
          intro inside
          exact outside (List.cons_prefix_cons.mpr ⟨rfl, inside⟩)
        simp only [List.cons_append, set, find?, entry?, entry, Option.getD_some, lookup_setEntry,
          Option.bind_eq_bind, Option.bind_some]
        exact ih above outside
      · simp only [List.cons_append, set, find?, entry?, lookup_setEntry_of_ne same]

end Node

namespace FileTree

variable {tree : FileTree}

/-! ## Walks -/

/-- Whether there is a directory at a place. -/
def HasDirectory (tree : FileTree) (place : Place) : Prop :=
  ∃ entries, tree.root.find? place = some (.directory entries)

/-- Whether the working directory is one. -/
def Sound (tree : FileTree) : Prop := tree.HasDirectory tree.workingDirectory

/-- A directory with something in it is one. -/
theorem HasDirectory.parent {here : Place} {part : String}
    (inside : tree.HasDirectory (here ++ [part])) : tree.HasDirectory here := by
  obtain ⟨entries, found⟩ := inside
  exact Node.parent_directory found

/-- The place above a directory is one, or is the root. -/
theorem HasDirectory.dropLast {here : Place} (inside : tree.HasDirectory here) :
    tree.HasDirectory here.dropLast := by
  obtain rfl | ⟨front, last, rfl⟩ := here.eq_nil_or_concat
  · exact inside
  · rw [List.concat_eq_append] at inside ⊢
    rw [List.dropLast_concat]
    exact inside.parent

/-- If there is any directory then the root is one. -/
theorem HasDirectory.root {here : Place} (inside : tree.HasDirectory here) :
    tree.HasDirectory [] := by
  obtain ⟨entries, found⟩ := inside
  cases here with
  | nil => exact ⟨entries, found⟩
  | cons name here =>
    obtain ⟨rooted, -, root, -⟩ := Node.directory_of_find? found
    exact ⟨rooted, congrArg some root⟩

/-- Where a walk may lead: to a directory, or to a place in one. Only a walk to create something
stops at a link. -/
inductive IsReachable (tree : FileTree) (purpose : Purpose) : Place → Prop where
  | directory {place : Place} (found : tree.HasDirectory place) : tree.IsReachable purpose place
  | entry {here : Place} {part : String} (inside : tree.HasDirectory here)
      (followed : purpose = .create ∨
        ∀ target, tree.root.find? (here ++ [part]) ≠ some (.link target)) :
      tree.IsReachable purpose (here ++ [part])

/-- A walk from a directory ends where something is, or could be written. -/
theorem walkParts_reachable {purpose : Purpose}
    {behind : Place → List String → Except FileError Place} {here place : Place}
    {parts : List String} (inside : tree.HasDirectory here)
    (on : ∀ start parts place, tree.HasDirectory start → behind start parts = .ok place →
      tree.IsReachable purpose place)
    (walks : tree.walkParts purpose behind here parts = .ok place) :
    tree.IsReachable purpose place := by
  induction parts generalizing here with
  | nil =>
    cases walks
    exact .directory inside
  | cons part rest ih =>
    simp only [walkParts] at walks
    split at walks
    · exact ih inside walks
    split at walks
    · exact ih inside.dropLast walks
    split at walks
    · cases walks
    split at walks
    · rename_i creates
      cases walks
      rw [Bool.and_eq_true, decide_eq_true_eq] at creates
      exact .entry inside (.inl creates.2)
    split at walks
    · cases walks
    -- what is there decides how the walk goes on
    split at walks
    · rename_i found
      split at walks
      · cases walks
        refine .entry inside (.inr fun target => ?_)
        rw [found]
        exact nofun
      · cases walks
    · rename_i entries found
      exact ih ⟨entries, found⟩ walks
    · rename_i content found
      split at walks
      · cases walks
        refine .entry inside (.inr fun target => ?_)
        rw [found]
        exact nofun
      · cases walks
    · rename_i target _
      refine on _ _ _ ?_ walks
      split
      · exact inside.root
      · exact inside

/-- So does a walk over links. -/
theorem walk_reachable {purpose : Purpose} {links : Nat} {here place : Place}
    {parts : List String} (inside : tree.HasDirectory here)
    (walks : tree.walk purpose links here parts = .ok place) :
    tree.IsReachable purpose place := by
  induction links generalizing here parts place with
  | zero =>
    refine walkParts_reachable inside (fun _ _ _ _ walks => ?_) walks
    cases walks
  | succ links ih =>
    exact walkParts_reachable inside (fun _ _ _ inside walks => ih inside walks) walks

/-- So does the path, from the working directory or the root. -/
theorem Sound.place_reachable (sound : tree.Sound) {purpose : Purpose} {p : Path} {place : Place}
    (leads : tree.place purpose p = .ok place) : tree.IsReachable purpose place := by
  simp only [FileTree.place] at leads
  split at leads
  · cases leads
  split at leads
  · cases leads
  refine walk_reachable ?_ leads
  split
  · exact HasDirectory.root sound
  · exact sound

/-! ## Trees with one file written -/

/-- What a written tree has to do with the one before: a file stands at `place`, where there was
none or another one, and at all other places there is what there was. -/
structure Writes (before after : FileTree) (place : Place) : Prop where
  leaf : ∀ found, before.root.find? place = some found → ∃ content, found = .file content
  written : ∃ content, after.root.find? place = some (.file content)
  kept : ∀ other, ¬place <+: other →
    (after.root.find? other).map Node.kind = (before.root.find? other).map Node.kind
  workingDirectory : after.workingDirectory = before.workingDirectory

namespace Writes

variable {before after : FileTree} {place : Place} (writes : Writes before after place)

include writes

/-- Nothing but the file itself is at its place or below it. -/
theorem outside {other : Place} {found : Node} (finds : before.root.find? other = some found)
    (inner : ∀ content, found ≠ .file content) : ¬place <+: other := by
  rintro ⟨more, rfl⟩
  rw [Node.find?_append, Option.bind_eq_some_iff] at finds
  obtain ⟨node, here, below⟩ := finds
  obtain ⟨content, rfl⟩ := writes.leaf node here
  cases more with
  | nil => exact inner content (Option.some.inj below).symm
  | cons name more =>
    obtain ⟨entries, child, directory, -⟩ := Node.directory_of_find? below
    cases directory

/-- Directories stay. -/
theorem hasDirectory {here : Place} (inside : before.HasDirectory here) :
    after.HasDirectory here := by
  obtain ⟨entries, found⟩ := inside
  have kept := writes.kept here (writes.outside found (fun _ => nofun))
  rw [found, Option.map_some, Option.map_eq_some_iff] at kept
  obtain ⟨node, found, directory⟩ := kept
  obtain ⟨entries, rfl⟩ := Node.kind_eq_directory.mp directory
  exact ⟨entries, found⟩

/-- And links too. -/
theorem link {here : Place} {target : Path} (found : before.root.find? here = some (.link target)) :
    after.root.find? here = some (.link target) := by
  have kept := writes.kept here (writes.outside found (fun _ => nofun))
  rw [found, Option.map_some, Option.map_eq_some_iff] at kept
  obtain ⟨node, found, same⟩ := kept
  rw [found]
  cases node with
  | link other => exact congrArg some same
  | directory entries => cases same
  | file content => cases same

/-- A walk that has led to the file to be written leads to the written file. -/
theorem walkParts {behind behind' : Place → List String → Except FileError Place}
    (on : ∀ start parts, behind start parts = .ok place → behind' start parts = .ok place)
    {here : Place} {parts : List String}
    (walks : before.walkParts .write behind here parts = .ok place) :
    after.walkParts .look behind' here parts = .ok place := by
  induction parts generalizing here with
  | nil => exact walks
  | cons part rest ih =>
    simp only [FileTree.walkParts] at walks ⊢
    split
    · rename_i skipped
      rw [if_pos skipped] at walks
      exact ih walks
    rename_i named
    rw [if_neg named] at walks
    split
    · rename_i up
      rw [if_pos up] at walks
      exact ih walks
    rename_i down
    rw [if_neg down] at walks
    split
    · rename_i long
      rw [if_pos long] at walks
      cases walks
    rename_i short
    rw [if_neg short] at walks
    -- a file that is written has no slash behind its name
    simp only [reduceCtorEq, decide_false, decide_true, Bool.and_false, Bool.and_true,
      Bool.false_eq_true, if_false] at walks ⊢
    split at walks
    · cases walks
    rename_i plain
    have last (all : (rest.all (·.isEmpty)) = true) : rest.isEmpty = true := by
      simpa [all] using plain
    split at walks
    · split at walks
      · rename_i all
        cases walks
        obtain ⟨content, written⟩ := writes.written
        simp only [written, last all, if_true]
      · cases walks
    · rename_i entries found
      obtain ⟨entries, found⟩ := writes.hasDirectory ⟨entries, found⟩
      simp only [found]
      exact ih walks
    · split at walks
      · rename_i empty
        cases walks
        obtain ⟨content, written⟩ := writes.written
        simp only [written, empty, if_true]
      · cases walks
    · rename_i target found
      simp only [writes.link found]
      exact on _ _ walks

/-- Walks of the written file end there over links as well. -/
theorem walk {links : Nat} {here : Place} {parts : List String}
    (walks : before.walk .write links here parts = .ok place) :
    after.walk .look links here parts = .ok place := by
  induction links generalizing here parts with
  | zero =>
    refine writes.walkParts (fun _ _ walks => ?_) walks
    cases walks
  | succ links ih => exact writes.walkParts (fun _ _ walks => ih walks) walks

/-- The path of the written file leads to it. -/
theorem leads {p : Path} (leads : before.place .write p = .ok place) :
    after.place .look p = .ok place := by
  -- the text of the path is checked the same way for writing and for looking
  simp only [FileTree.place, writes.workingDirectory] at leads ⊢
  split
  · rename_i empty
    rw [if_pos empty] at leads
    cases leads
  rename_i named
  rw [if_neg named] at leads
  split
  · rename_i long
    rw [if_pos long] at leads
    cases leads
  rename_i short
  rw [if_neg short] at leads
  exact writes.walk leads

end Writes

/-- A tree in which a node is set in a directory, at a place where there is none or a file. -/
theorem kept_of_set {here : Place} (inside : tree.HasDirectory here) (part : String)
    (new : Node) :
    let after : FileTree := { tree with root := Node.set new (here ++ [part]) tree.root }
    after.root.find? (here ++ [part]) = some new ∧
      ∀ other, ¬here ++ [part] <+: other →
        (after.root.find? other).map Node.kind = (tree.root.find? other).map Node.kind := by
  obtain ⟨entries, parent⟩ := inside
  exact ⟨Node.find?_set parent part new, fun _ outside => Node.kind_set parent new outside⟩

/-- Writing a file writes at the place of its path. -/
theorem Sound.writes (sound : tree.Sound) {p : Path} {content : ByteArray} {after : FileTree}
    (written : tree.write p content = .ok after) :
    ∃ place, tree.place .write p = .ok place ∧ Writes tree after place ∧
      after.root.find? place = some (.file content) := by
  simp only [write] at written
  cases leads : tree.place .write p with
  | error e =>
    rw [leads] at written
    cases written
  | ok place =>
    simp only [leads, bind, Except.bind] at written
    split at written
    · cases written
    · rename_i free
      cases written
      -- the place is no directory, so it is in one
      cases sound.place_reachable leads with
      | directory found =>
        obtain ⟨entries, found⟩ := found
        exact absurd found (free entries)
      | @entry here part inside followed =>
        obtain ⟨found, kept⟩ := kept_of_set inside part (.file content)
        refine ⟨_, rfl, ⟨?_, ⟨content, found⟩, kept, rfl⟩, found⟩
        intro node there
        cases node with
        | file old => exact ⟨old, rfl⟩
        | directory entries => exact absurd there (free entries)
        | link target =>
          obtain creates | followed := followed
          · cases creates
          · exact absurd there (followed target)

/-- What was written to a path is read under the same path. -/
theorem read_write (sound : tree.Sound) {p : Path} {content : ByteArray} {after : FileTree}
    (written : tree.write p content = .ok after) : after.read p = .ok content := by
  obtain ⟨place, leads, writes, found⟩ := sound.writes written
  have looks := writes.leads leads
  simp only [read, looks, found]

/-- Only what stands in the tree has a content. -/
theorem contains_of_read {p : Path} {content : ByteArray} (reads : tree.read p = .ok content) :
    tree.contains p = true := by
  unfold read at reads
  simp only [contains, node?]
  cases leads : tree.place .look p with
  | error e =>
    rw [leads] at reads
    exact nomatch reads
  | ok place =>
    rw [leads] at reads
    cases found : tree.root.find? place with
    | none =>
      simp only [found] at reads
      exact nomatch reads
    | some node => simp only [found, Option.isSome_some]

/-! ## New directories -/

/-- A node that is created keeps the working directory in place. -/
theorem Sound.create (sound : tree.Sound) {p : Path} {entries : List (String × Node)}
    {after : FileTree} (created : tree.create p (.directory entries) = .ok after) :
    after.Sound := by
  simp only [FileTree.create] at created
  cases leads : tree.place .create p with
  | error e =>
    rw [leads] at created
    cases created
  | ok place =>
    simp only [leads, bind, Except.bind, pure, Except.pure] at created
    split at created
    · cases created
    · rename_i free
      cases created
      rw [Bool.not_eq_true, Option.isSome_eq_false_iff, Option.isNone_iff_eq_none] at free
      cases sound.place_reachable leads with
      | directory found =>
        obtain ⟨entries, found⟩ := found
        rw [free] at found
        cases found
      | @entry here part inside _ =>
        obtain ⟨-, kept⟩ := kept_of_set inside part (.directory entries)
        obtain ⟨old, found⟩ := sound
        -- the working directory was there before, so it is not below the new node
        have outside : ¬here ++ [part] <+: tree.workingDirectory := by
          rintro ⟨more, whole⟩
          rw [← whole, Node.find?_append, free] at found
          cases found
        have same := kept _ outside
        rw [found, Option.map_some, Option.map_eq_some_iff] at same
        obtain ⟨node, still, directory⟩ := same
        obtain ⟨entries, rfl⟩ := Node.kind_eq_directory.mp directory
        exact ⟨entries, still⟩

/-- A directory that is there already is left as it is. -/
theorem Sound.present (sound : tree.Sound) {p : Path} {e : FileError} {after : FileTree}
    (created : (if tree.isDirectory p then .ok tree else .error e) = Except.ok after) :
    after.Sound := by
  split at created
  · cases created
    exact sound
  · cases created

/-- Directories that are created on the way keep the working directory too. -/
theorem Sound.createDirectoriesFrom (sound : tree.Sound) {depth : Nat} {p : Path}
    {after : FileTree} (created : createDirectoriesFrom depth tree p = .ok after) :
    after.Sound := by
  -- on the depth: what is above is created first, if it is missing
  induction depth generalizing tree p after with
  | zero =>
    simp only [FileTree.createDirectoriesFrom] at created
    split at created
    · cases created
      exact sound
    split at created
    · rename_i made
      cases created
      exact sound.create made
    · cases created
    · exact sound.present created
  | succ depth ih =>
    unfold FileTree.createDirectoriesFrom at created
    split at created
    · cases created
      exact sound
    split at created
    · rename_i made
      cases created
      exact sound.create made
    · split at created
      · rename_i lower above same _
        obtain rfl := Nat.succ.inj same
        split at created
        · cases created
        · rename_i tree' made
          have sound' : tree'.Sound := ih sound made
          split at created
          · rename_i made
            cases created
            exact sound'.create made
          · exact sound'.present created
      · cases created
    · exact sound.present created

/-- So do all those of a path. -/
theorem Sound.createDirectories (sound : tree.Sound) {p : Path} {after : FileTree}
    (created : tree.createDirectories p = .ok after) : after.Sound :=
  sound.createDirectoriesFrom created

end FileTree

end EmuHost
