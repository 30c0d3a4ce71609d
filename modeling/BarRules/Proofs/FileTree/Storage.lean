import BarRules.Proofs.FileTree.Growth

/-
  Files that are stored in a directory, one after another.

  Key definitions include:
    * `BarRules.FileTree.Stores`

  Key theorems include:
    * `BarRules.FileTree.resolve_joinPath`
    * `BarRules.FileTree.stores_nil`
    * `BarRules.FileTree.Stores.after_write`

  The path of a name in a directory leads to the name at the
  place where the directory is.  Files of different names do
  not disturb each other there.
-/

------------------------------------------------------------
-- Paths of Names
------------------------------------------------------------

namespace BarRules

namespace FileTree

variable {tree : FileTree}
variable {place : List String}
variable {path directory name rest : String}

/- A path may be walked if it is none of three things. -/
theorem checkPath_eq_ok_iff :
    checkPath path = .ok () ↔
      '\x00' ∉ path.toList ∧
        path ≠ "" ∧
        path.utf8ByteSize < pathLimit := by
  unfold checkPath
  split
  · simp_all
  · split
    · simp_all
    · split <;> simp_all

/- The front of a path that may be walked may be walked. -/
theorem checkPath_of_append
    (hDirectory : directory ≠ "")
    (h : checkPath (directory ++ rest) = .ok ()) :
    checkPath directory = .ok () := by
  rw [checkPath_eq_ok_iff] at h ⊢
  rcases h with ⟨hNul, _, hShort⟩
  refine ⟨?_, hDirectory, ?_⟩
  · intro hMem
    apply hNul
    simp [hMem]
  · rw [String.utf8ByteSize_append] at hShort
    omega

/- A longer path starts where its front starts. -/
theorem start_append
    (tree : FileTree)
    (hDirectory : directory ≠ "")
    (rest : String) :
    tree.start (directory ++ rest) = tree.start directory := by
  have hFirst :
      (directory ++ rest).toList.head? =
        directory.toList.head? := by
    cases hChars : directory.toList with
    | nil => simp_all
    | cons c chars => simp [hChars]
  have hAbsolute :
      isAbsolute (directory ++ rest) = isAbsolute directory := by
    rw [isAbsolute, isAbsolute, hFirst]
  rw [start, start, hAbsolute]

/-
  A name is added to a path after a slash, and either the path
  ends in one or it is put between them.
-/
theorem pieces_joinPath
    (directory : String)
    (hPlain : '/' ∉ name.toList) :
    ∃ parts rest,
      joinPath directory name = directory ++ rest ∧
        Text.pieces '/' (joinPath directory name) =
          parts ++ [name] ∧
        (Text.pieces '/' directory = parts ∨
          Text.pieces '/' directory = parts ++ [""]) := by
  have hName : Text.pieces '/' name = [name] :=
    Text.pieces_of_not_mem hPlain
  by_cases hSlash : directory.toList.getLast? = some '/'
  · rcases List.getLast?_eq_some_iff.mp hSlash with
      ⟨chars, hChars⟩
    have hDirectory :
        directory = String.ofList chars ++ "/" := by
      apply String.toList_injective
      simp [hChars]
    refine
      ⟨Text.pieces '/' (String.ofList chars), name, ?_, ?_,
        Or.inr ?_⟩
    · rw [joinPath, if_pos hSlash]
    · rw [joinPath, if_pos hSlash, hDirectory,
        Text.pieces_append (by rfl), hName]
    · have hPieces :
          Text.pieces '/' (String.ofList chars ++ "/" ++ "") =
            Text.pieces '/' (String.ofList chars) ++
              Text.pieces '/' "" :=
        Text.pieces_append rfl (String.ofList chars) ""
      rw [String.append_empty] at hPieces
      rw [hDirectory, hPieces]
      rfl
  · refine
      ⟨Text.pieces '/' directory, "/" ++ name, ?_, ?_,
        Or.inl rfl⟩
    · rw [joinPath, if_neg hSlash, String.append_assoc]
    · rw [joinPath, if_neg hSlash,
        Text.pieces_append (by rfl), hName]

/-
  The path of a name in a directory leads to where the name is
  in the directory.
-/
theorem resolve_joinPath
    (hDirectory : directory ≠ "")
    (hName : IsName name)
    (hPlain : '/' ∉ name.toList)
    (h : tree.resolve (joinPath directory name) = .ok place) :
    ∃ above,
      tree.resolve directory = .ok above ∧
        tree.node? above = some .directory ∧
        place = above ++ [name] := by
  rcases pieces_joinPath directory hPlain with
    ⟨parts, rest, hJoined, hPieces, hParts⟩
  rw [resolve_eq_ok_iff, hPieces, hJoined,
    start_append tree hDirectory] at h
  rcases h with ⟨hCheck, hWalk⟩
  rcases walk_append_eq_ok_iff.mp hWalk with
    ⟨above, hAbove, hLast⟩
  rcases (walk_name_eq_ok_iff hName).mp hLast with
    ⟨hNode, _, hPlace⟩
  refine ⟨above, ?_, hNode, hPlace⟩
  rw [resolve_eq_ok_iff]
  refine ⟨checkPath_of_append hDirectory hCheck, ?_⟩
  rcases hParts with hSame | hSlash
  · rw [hSame]
    exact hAbove
  · rw [hSlash, walk_append_eq_ok_iff]
    exact
      ⟨above, hAbove, walk_empty_eq_ok_iff.mpr ⟨hNode, rfl⟩⟩

end FileTree

end BarRules

------------------------------------------------------------
-- Stored Files
------------------------------------------------------------

namespace BarRules

namespace FileTree

variable {before between after : FileTree}
variable {directory name text : String}
variable {files : List (String × String)}

/-
  A tree is another one in which texts have been stored under
  their names in a directory, and nothing else has changed.
-/
structure Stores
    (directory : String)
    (files : List (String × String))
    (before after : FileTree) :
    Prop where
  keeps : Keeps before after
  stored :
    ∀ file ∈ files,
      ∃ above,
        after.resolve directory = .ok above ∧
          after.node? above = some .directory ∧
          after.node? (above ++ [file.1]) =
            some (.file file.2.toUTF8)
  other :
    ∀ place,
      (∀ file ∈ files, ∀ above,
        after.resolve directory = .ok above →
          place ≠ above ++ [file.1]) →
      after.node? place = before.node? place

/- Nothing is stored without a change. -/
theorem stores_nil
    (directory : String)
    (tree : FileTree) :
    Stores directory [] tree tree where
  keeps := .refl tree
  stored := by simp
  other _ _ := rfl

/- One file is stored and then others of different names. -/
theorem Stores.after_write
    (hDirectory : directory ≠ "")
    (hName : IsName name)
    (hPlain : '/' ∉ name.toList)
    (hNew : ∀ file ∈ files, file.1 ≠ name)
    (hWrite :
      before.writeFile (joinPath directory name) text =
        .ok between)
    (hRest : Stores directory files between after) :
    Stores directory ((name, text) :: files) before after := by
  rcases writeFile_eq_ok hWrite with
    ⟨place, hPath, hNode, hBetween⟩
  rcases resolve_joinPath hDirectory hName hPlain hPath with
    ⟨above, hLeads, hAbove, rfl⟩
  have hKeeps : Keeps before between := by
    rw [hBetween]
    exact keeps_put before hNode _
  have hAll : Keeps before after := hKeeps.trans hRest.keeps
  have hLeadsAfter : after.resolve directory = .ok above :=
    resolve_of_keeps hAll hLeads
  refine ⟨hAll, ?_, ?_⟩
  · intro file hFile
    rcases List.mem_cons.mp hFile with rfl | hMem
    · refine
        ⟨above, hLeadsAfter, hAll.directory above hAbove, ?_⟩
      rw [hRest.other, hBetween, node?_put_self before (by simp)]
      intro file hFile other hOther hSame
      rw [hLeadsAfter] at hOther
      cases hOther
      apply hNew file hFile
      simpa using hSame.symm
    · exact hRest.stored file hMem
  · intro place hPlace
    have hDiffer : place ≠ above ++ [name] :=
      hPlace (name, text) List.mem_cons_self above hLeadsAfter
    calc
      after.node? place = between.node? place := by
        apply hRest.other
        intro file hFile
        exact hPlace file (List.mem_cons_of_mem _ hFile)
      _ = before.node? place := by
        rw [hBetween, node?_put_of_ne before hDiffer]

end FileTree

end BarRules
