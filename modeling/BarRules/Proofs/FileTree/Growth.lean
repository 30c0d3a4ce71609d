import BarRules.FileTree
import BarRules.Proofs.Text.Cutting
import Mathlib.Data.List.TakeWhile

/-
  What requests to a tree of files change, and what they keep.

  Key definitions include:
    * `BarRules.FileTree.Keeps`
    * `BarRules.FileTree.GrowsAlong`

  Key theorems include:
    * `BarRules.FileTree.resolve_of_keeps`
    * `BarRules.FileTree.resolve_joinPath`
    * `BarRules.FileTree.writeFile_eq_ok`
    * `BarRules.FileTree.makeDirectories_grows`

  No request removes a directory, so a path that leads to a
  place goes on leading there.  What is added while directories
  are made stands at places where a leading part of the path
  leads, whether all of them can be made or not.
-/

------------------------------------------------------------
-- Nodes
------------------------------------------------------------

namespace BarRules

namespace FileTree

variable {place other : List String}

/- The root is a directory. -/
@[simp]
theorem node?_root (tree : FileTree) :
    tree.node? [] = some .directory := by
  simp [node?]

/- What is put at a place stands there. -/
theorem node?_put_self
    (tree : FileTree)
    (hPlace : place ≠ [])
    (node : FileNode) :
    (tree.put place node).node? place = some node := by
  simp [node?, put, hPlace]

/- What is put at a place changes no other place. -/
theorem node?_put_of_ne
    (tree : FileTree)
    (hOther : other ≠ place)
    (node : FileNode) :
    (tree.put place node).node? other = tree.node? other := by
  have hDiffer : (other == place) = false :=
    beq_false_of_ne hOther
  simp [node?, put, List.lookup_cons, hDiffer]

end FileTree

end BarRules

------------------------------------------------------------
-- Walks
------------------------------------------------------------

namespace BarRules

namespace FileTree

variable {tree before after : FileTree}
variable {place found : List String}
variable {part path : String}
variable {parts : List String}

/- A walk in two stretches goes on from the place between. -/
theorem walk_append
    (tree : FileTree)
    (place front back : List String) :
    tree.walk place (front ++ back) =
      (tree.walk place front).bind
        (fun above => tree.walk above back) := by
  fun_induction walk tree place front with
  | case1 place => rfl
  | case2 place part rest hNode =>
      simp [walk, hNode, Except.bind]
  | case3 place part rest content hNode =>
      simp [walk, hNode, Except.bind]
  | case4 place part rest hNode hStays ih =>
      rw [List.cons_append, walk, hNode, ← ih]
      simp [hStays]
  | case5 place rest hNode hStays ih =>
      rw [List.cons_append, walk, hNode, ← ih]
      simp
  | case6 place part rest hNode hStays hUp hLong =>
      rw [List.cons_append, walk, hNode]
      simp [hStays, hUp, hLong, Except.bind]
  | case7 place part rest hNode hStays hUp hShort ih =>
      rw [List.cons_append, walk, hNode, ← ih]
      simp [hStays, hUp, hShort]

/- An empty part stays in a directory. -/
theorem walk_empty_eq_ok_iff :
    tree.walk place [""] = .ok found ↔
      tree.node? place = some .directory ∧ found = place := by
  rw [walk]
  cases tree.node? place with
  | none => simp
  | some node =>
      cases node with
      | file content => simp
      | directory =>
          simp only [walk, decide_true, Bool.true_or, if_true,
            Except.ok.injEq, true_and]
          exact eq_comm

/- Slashes at the end of a path stay in its directory. -/
theorem walk_replicate_empty
    (hPlace : tree.node? place = some .directory)
    (count : Nat) :
    tree.walk place (List.replicate count "") =
      .ok place := by
  induction count with
  | zero => rfl
  | succ count ih =>
      rw [List.replicate_succ, walk, hPlace]
      simpa using ih

/- A part of a path that names something in a directory. -/
structure IsName (part : String) : Prop where
  ne_empty : part ≠ ""
  ne_dot : part ≠ "."
  ne_dots : part ≠ ".."

/- A name leads from a directory to what it names. -/
theorem walk_name_eq_ok_iff
    (hName : IsName part) :
    tree.walk place [part] = .ok found ↔
      tree.node? place = some .directory ∧
        part.utf8ByteSize ≤ nameLimit ∧
        found = place ++ [part] := by
  rw [walk]
  cases tree.node? place with
  | none => simp
  | some node =>
      cases node with
      | file content => simp
      | directory =>
          by_cases hLong : nameLimit < part.utf8ByteSize
          · simp [hName.ne_empty, hName.ne_dot, hName.ne_dots,
              hLong, Nat.not_le.mpr hLong]
          · simp only [hName.ne_empty, hName.ne_dot,
              hName.ne_dots, hLong, Nat.not_lt.mp hLong, walk,
              decide_false, Bool.or_self, if_false,
              Except.ok.injEq, true_and, Bool.false_eq_true]
            exact eq_comm

/- The end of a walk is reached through the place before it. -/
theorem walk_append_eq_ok_iff
    {front back : List String} :
    tree.walk place (front ++ back) = .ok found ↔
      ∃ above,
        tree.walk place front = .ok above ∧
          tree.walk above back = .ok found := by
  rw [walk_append]
  cases tree.walk place front <;> simp [Except.bind]

end FileTree

end BarRules

------------------------------------------------------------
-- Kept Directories
------------------------------------------------------------

namespace BarRules

namespace FileTree

variable {before between after : FileTree}
variable {place found : List String}
variable {parts : List String}
variable {path : String}

/-
  Paths start in one tree where they start in another, and the
  directories of the first one are also in the second one.
-/
structure Keeps (before after : FileTree) : Prop where
  base_eq : after.base = before.base
  directory :
    ∀ place,
      before.node? place = some .directory →
        after.node? place = some .directory

/- A tree keeps its own directories. -/
theorem Keeps.refl (tree : FileTree) : Keeps tree tree where
  base_eq := rfl
  directory _ h := h

/- What is kept twice is kept. -/
theorem Keeps.trans
    (hFirst : Keeps before between)
    (hSecond : Keeps between after) :
    Keeps before after where
  base_eq := hSecond.base_eq.trans hFirst.base_eq
  directory place h :=
    hSecond.directory place (hFirst.directory place h)

/- What is put where no directory is keeps all directories. -/
theorem keeps_put
    (tree : FileTree)
    (hPlace : tree.node? place ≠ some .directory)
    (node : FileNode) :
    Keeps tree (tree.put place node) where
  base_eq := rfl
  directory other hOther := by
    have hDiffer : other ≠ place := by
      rintro rfl
      exact hPlace hOther
    rw [node?_put_of_ne tree hDiffer]
    exact hOther

/- A walk goes on leading to its place. -/
theorem walk_of_keeps
    (hKeeps : Keeps before after)
    (hWalk : before.walk place parts = .ok found) :
    after.walk place parts = .ok found := by
  fun_induction walk before place parts with
  | case1 place => exact hWalk
  | case2 place part rest hNode => cases hWalk
  | case3 place part rest content hNode => cases hWalk
  | case4 place part rest hNode hStays ih =>
      have hThere := hKeeps.directory place hNode
      simpa [walk, hThere, hStays] using ih hWalk
  | case5 place rest hNode hStays ih =>
      have hThere := hKeeps.directory place hNode
      simpa [walk, hThere] using ih hWalk
  | case6 place part rest hNode hStays hUp hLong =>
      cases hWalk
  | case7 place part rest hNode hStays hUp hShort ih =>
      have hThere := hKeeps.directory place hNode
      simpa [walk, hThere, hStays, hUp, hShort]
        using ih hWalk

/- A path starts where it started. -/
theorem Keeps.start_eq
    (hKeeps : Keeps before after)
    (path : String) :
    after.start path = before.start path := by
  rw [start, start, hKeeps.base_eq]

/- A path goes on leading to its place. -/
theorem resolve_of_keeps
    (hKeeps : Keeps before after)
    (hPath : before.resolve path = .ok found) :
    after.resolve path = .ok found := by
  unfold resolve at hPath ⊢
  cases hCheck : checkPath path with
  | error fault =>
      rw [hCheck] at hPath
      cases hPath
  | ok =>
      rw [hCheck] at hPath
      rw [hKeeps.start_eq]
      exact walk_of_keeps hKeeps hPath

end FileTree

end BarRules

------------------------------------------------------------
-- Files in Directories
------------------------------------------------------------

namespace BarRules

namespace FileTree

variable {tree after : FileTree}
variable {place : List String}
variable {path directory name : String}

/- A path that leads somewhere is walked from its start. -/
theorem resolve_eq_ok_iff :
    tree.resolve path = .ok place ↔
      checkPath path = .ok () ∧
        tree.walk (tree.start path) (Text.pieces '/' path) =
          .ok place := by
  unfold resolve
  cases checkPath path <;> simp

/- A file is written at the place where its path leads. -/
theorem writeFile_eq_ok
    {text : String}
    (h : tree.writeFile path text = .ok after) :
    ∃ place,
      tree.resolve path = .ok place ∧
        tree.node? place ≠ some .directory ∧
        after = tree.put place (.file text.toUTF8) := by
  unfold writeFile at h
  cases hPath : tree.resolve path with
  | error fault => simp [hPath] at h
  | ok place =>
      simp only [hPath] at h
      split at h
      · cases h
      · rename_i hNode
        exact ⟨place, rfl, hNode, (Except.ok.inj h).symm⟩

end FileTree

end BarRules

------------------------------------------------------------
-- Made Directories
------------------------------------------------------------

namespace BarRules

namespace FileTree

variable {tree before between after : FileTree}
variable {place : List String}
variable {path leading : String}

/- The parts of a path end in a name, and slashes after it. -/
theorem pieces_eq_partsToLast (path : String) :
    ∃ count,
      Text.pieces '/' path =
        partsToLast path ++ List.replicate count "" := by
  let parts := Text.pieces '/' path
  let slashes := parts.reverse.takeWhile (· = "")
  have hSlashes :
      slashes = List.replicate slashes.length "" := by
    apply List.eq_replicate_of_mem
    intro part hPart
    simpa using List.mem_takeWhile_imp hPart
  refine ⟨slashes.length, ?_⟩
  calc
    parts = parts.reverse.reverse := by simp
    _ = (slashes ++
          parts.reverse.dropWhile (· = "")).reverse := by
      rw [List.takeWhile_append_dropWhile]
    _ = partsToLast path ++ slashes.reverse := by
      rw [List.reverse_append]
      rfl
    _ = partsToLast path ++
          List.replicate slashes.length "" := by
      rw [hSlashes, List.reverse_replicate,
        List.length_replicate]

/- The last part of a path that counts is not empty. -/
theorem ne_empty_of_getLast?_partsToLast
    {name : String}
    (h : (partsToLast path).getLast? = some name) :
    name ≠ "" := by
  rw [partsToLast, List.getLast?_reverse] at h
  have hFirst :=
    List.head?_dropWhile_not (· = "")
      (Text.pieces '/' path).reverse
  rw [h] at hFirst
  simpa using hFirst

/- A walk to a new directory leads there when it is made. -/
theorem walk_put_directory
    {start front : List String}
    {name : String}
    (hName : IsName name)
    (hShort : name.utf8ByteSize ≤ nameLimit)
    (hWalk : tree.walk start (front ++ [""]) = .ok place)
    (hNode : tree.node? (place ++ [name]) = none)
    (count : Nat) :
    (tree.put (place ++ [name]) .directory).walk start
        (front ++ [name] ++ List.replicate count "") =
      .ok (place ++ [name]) := by
  rcases walk_append_eq_ok_iff.mp hWalk with
    ⟨above, hFront, hStay⟩
  rcases walk_empty_eq_ok_iff.mp hStay with ⟨hAbove, rfl⟩
  have hKeeps :
      Keeps tree (tree.put (place ++ [name]) .directory) :=
    keeps_put tree (by simp [hNode]) .directory
  have hMade :
      (tree.put (place ++ [name]) .directory).node?
          (place ++ [name]) =
        some .directory :=
    node?_put_self tree (by simp) .directory
  rw [walk_append_eq_ok_iff]
  refine
    ⟨place ++ [name], ?_, walk_replicate_empty hMade count⟩
  rw [walk_append_eq_ok_iff]
  refine ⟨place, walk_of_keeps hKeeps hFront, ?_⟩
  rw [walk_name_eq_ok_iff hName]
  exact ⟨hKeeps.directory place hAbove, hShort, rfl⟩

/- A new directory stands where its path leads from then on. -/
theorem makeDirectory_eq_ok
    (h : tree.makeDirectory path = .ok after) :
    ∃ place,
      tree.node? place = none ∧
        after = tree.put place .directory ∧
        after.resolve path = .ok place := by
  unfold makeDirectory at h
  split at h
  · cases h
  rename_i hCheck
  split at h
  · cases h
  rename_i name hLast
  dsimp only at h
  split at h
  · cases h
  rename_i place hWalk
  split at h
  · cases h
  rename_i hDots
  split at h
  · cases h
  rename_i hShort
  split at h
  · cases h
  rename_i hNode
  rw [Bool.or_eq_true, not_or, decide_eq_true_eq,
    decide_eq_true_eq] at hDots
  have hName : IsName name :=
    ⟨ne_empty_of_getLast?_partsToLast hLast, hDots.1, hDots.2⟩
  have hParts :
      (partsToLast path).dropLast ++ [name] =
        partsToLast path := by
    rcases List.getLast?_eq_some_iff.mp hLast with
      ⟨front, hFront⟩
    rw [hFront, List.dropLast_concat]
  rcases pieces_eq_partsToLast path with ⟨count, hPieces⟩
  refine
    ⟨place ++ [name], hNode, (Except.ok.inj h).symm, ?_⟩
  rw [resolve_eq_ok_iff, hPieces, ← hParts,
    ← Except.ok.inj h]
  exact
    ⟨hCheck,
      walk_put_directory hName (Nat.not_lt.mp hShort) hWalk
        hNode count⟩

/- A directory that is there or made stands after that. -/
theorem ensureDirectory_eq_ok
    (h : tree.ensureDirectory path = .ok after) :
    after = tree ∨ tree.makeDirectory path = .ok after := by
  unfold ensureDirectory at h
  split at h
  · split at h
    · exact Or.inl (Except.ok.inj h).symm
    · cases h
  · exact Or.inr h

end FileTree

end BarRules

------------------------------------------------------------
-- Growth
------------------------------------------------------------

namespace BarRules

namespace FileTree

variable {tree before between after : FileTree}
variable {path part : String}

/-
  A tree is another one, with some more directories to which
  leading parts of a path lead.
-/
structure GrowsAlong
    (path : String)
    (before after : FileTree) :
    Prop where
  base_eq : after.base = before.base
  node :
    ∀ place,
      after.node? place = before.node? place ∨
        before.node? place = none ∧
          after.node? place = some .directory ∧
          ∃ part ∈ ancestors path,
            after.resolve part = .ok place

namespace GrowsAlong

/- A tree that does not change grows along any path. -/
theorem refl
    (path : String)
    (tree : FileTree) :
    GrowsAlong path tree tree where
  base_eq := rfl
  node _ := Or.inl rfl

/- A tree that grows keeps its directories. -/
theorem keeps
    (h : GrowsAlong path before after) :
    Keeps before after where
  base_eq := h.base_eq
  directory place hPlace := by
    rcases h.node place with hSame | ⟨hNone, _⟩
    · rw [hSame]
      exact hPlace
    · rw [hNone] at hPlace
      cases hPlace

/- Growth goes on. -/
theorem trans
    (hFirst : GrowsAlong path before between)
    (hSecond : GrowsAlong path between after) :
    GrowsAlong path before after where
  base_eq := hSecond.base_eq.trans hFirst.base_eq
  node place := by
    rcases hFirst.node place with
      hSame | ⟨hNone, hThere, part, hPart, hLeads⟩
    · rw [← hSame]
      exact hSecond.node place
    · apply Or.inr
      exact
        ⟨hNone, hSecond.keeps.directory place hThere, part,
          hPart, resolve_of_keeps hSecond.keeps hLeads⟩

end GrowsAlong

/- Making a leading part of a path is growth along it. -/
theorem ensureDirectory_grows
    (hPart : part ∈ ancestors path)
    (h : tree.ensureDirectory part = .ok after) :
    GrowsAlong path tree after := by
  rcases ensureDirectory_eq_ok h with rfl | hMade
  · exact .refl path after
  rcases makeDirectory_eq_ok hMade with
    ⟨place, hNone, hAfter, hLeads⟩
  refine ⟨by rw [hAfter]; rfl, ?_⟩
  intro other
  by_cases hOther : other = place
  · apply Or.inr
    have hPlace : place ≠ [] := by
      rintro rfl
      simp at hNone
    refine ⟨by rw [hOther]; exact hNone, ?_, part, hPart, ?_⟩
    · rw [hOther, hAfter]
      exact node?_put_self tree hPlace .directory
    · rw [hOther]
      exact hLeads
  · apply Or.inl
    rw [hAfter]
    exact node?_put_of_ne tree hOther .directory

/- The nearest part is made, and the missing ones are parts. -/
theorem makeNearest_grows
    {missing parts rest : List String}
    (hMissing : ∀ part ∈ missing, part ∈ ancestors path)
    (hParts : ∀ part ∈ parts, part ∈ ancestors path)
    (h : tree.makeNearest missing parts = .ok (after, rest)) :
    GrowsAlong path tree after ∧
      ∀ part ∈ rest, part ∈ ancestors path := by
  fun_induction makeNearest tree missing parts with
  | case1 missing =>
      cases h
      exact ⟨.refl path _, hMissing⟩
  | case2 missing part parts made hEnsure =>
      cases h
      exact
        ⟨ensureDirectory_grows
          (hParts part List.mem_cons_self) hEnsure, hMissing⟩
  | case3 missing part parts hEnsure ih =>
      apply ih _ _ h
      · intro other hOther
        rcases List.mem_cons.mp hOther with rfl | hMem
        · exact hParts other List.mem_cons_self
        · exact hMissing other hMem
      · intro other hOther
        exact hParts other (List.mem_cons_of_mem part hOther)
  | case4 missing part parts fault hEnsure hOther => cases h

/- Parts that are made in order make the tree grow. -/
theorem makeAll_grows
    (tree : FileTree)
    {parts : List String}
    (hParts : ∀ part ∈ parts, part ∈ ancestors path) :
    GrowsAlong path tree (tree.makeAll parts).1 := by
  fun_induction makeAll tree parts with
  | case1 tree => exact .refl path tree
  | case2 tree part parts made hEnsure ih =>
      have hMade : GrowsAlong path tree made :=
        ensureDirectory_grows
          (hParts part List.mem_cons_self) hEnsure
      apply hMade.trans
      apply ih
      intro other hOther
      exact hParts other (List.mem_cons_of_mem part hOther)
  | case3 tree part parts fault hEnsure =>
      exact .refl path tree

/-
  Directories are made along their path only, also where not
  all of them can be made.
-/
theorem makeDirectories_grows
    (tree : FileTree)
    (path : String) :
    GrowsAlong path tree (tree.makeDirectories path).1 := by
  unfold makeDirectories
  split
  · exact .refl path tree
  · rename_i made missing hNearest
    rcases makeNearest_grows (by simp) (fun _ h => h)
        hNearest with
      ⟨hMade, hMissing⟩
    exact hMade.trans (makeAll_grows made hMissing)

end FileTree

end BarRules
