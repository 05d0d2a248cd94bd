import MapStandin.Files.Store

/-! # Folders

What a path leads to is decided by the folders. Writing a file where no folder is leaves them all,
so no path leads elsewhere afterwards. -/

namespace MapStandin.Files

variable {files files' after : Files} {place p q : Location} {node : Node}

/-! ## Putting -/

theorem lookup_cons (entry : Location × Node) (rest : List (Location × Node)) :
    (entry :: rest).lookup q = if q = entry.1 then some entry.2 else rest.lookup q := by
  rw [List.lookup_cons]
  by_cases h : q = entry.1
  · rw [if_pos h, beq_iff_eq.2 h]
  · rw [if_neg h, beq_eq_false_iff_ne.2 h]

theorem lookup_set (nodes : List (Location × Node)) :
    (put.set place node nodes).lookup q = if q = place then some node else nodes.lookup q := by
  induction nodes with
  | nil => rw [put.set, lookup_cons]
  | cons entry rest ih =>
    obtain ⟨p, n⟩ := entry
    unfold put.set
    by_cases hp : p = place
    · rw [if_pos hp, lookup_cons, lookup_cons, ← hp]
      by_cases hq : q = p <;> simp [hq]
    · rw [if_neg hp, lookup_cons, lookup_cons, ih]
      by_cases hq : q = p
      · simp [hq, hp]
      · simp [hq]

theorem node?_put (h : place ≠ []) :
    (files.put place node).node? q = if q = place then some node else files.node? q := by
  unfold node?
  by_cases hq : q = []
  · rw [if_pos hq, if_pos hq, if_neg]
    rw [hq]
    exact h.symm
  · rw [if_neg hq, if_neg hq]
    exact lookup_set files.nodes

theorem set_set (nodes : List (Location × Node)) :
    put.set place node (put.set place node nodes) = put.set place node nodes := by
  induction nodes with
  | nil => simp [put.set]
  | cons entry rest ih =>
    obtain ⟨p, n⟩ := entry
    by_cases hp : p = place
    · simp [put.set, hp]
    · simp [put.set, hp, ih]

theorem put_put : (files.put place node).put place node = files.put place node := by
  unfold put
  rw [set_set]

/-! ## The same folders -/

/-- Two file systems with the same folders, closed at the same places. -/
structure SameFolders (files files' : Files) : Prop where
  here : files'.here = files.here
  readOnly : files'.readOnly = files.readOnly
  unreadable : files'.unreadable = files.unreadable
  folders : ∀ q, files'.node? q = some .folder ↔ files.node? q = some .folder

theorem SameFolders.refl (files : Files) : SameFolders files files := by
  constructor <;> simp

theorem SameFolders.symm (h : SameFolders files files') : SameFolders files' files where
  here := h.here.symm
  readOnly := h.readOnly.symm
  unreadable := h.unreadable.symm
  folders q := (h.folders q).symm

theorem SameFolders.trans (h : SameFolders files files') (h' : SameFolders files' after) :
    SameFolders files after where
  here := h'.here.trans h.here
  readOnly := h'.readOnly.trans h.readOnly
  unreadable := h'.unreadable.trans h.unreadable
  folders q := (h'.folders q).trans (h.folders q)

theorem sameFolders_put_file {content : List UInt8} (hplace : place ≠ [])
    (h : files.node? place ≠ some .folder) :
    SameFolders files (files.put place (.file content)) where
  here := rfl
  readOnly := rfl
  unreadable := rfl
  folders q := by
    rw [node?_put hplace]
    by_cases hq : q = place
    · rw [if_pos hq, hq]
      simp [h]
    · rw [if_neg hq]

theorem SameFolders.isReadOnly (h : SameFolders files files') (place : Location) :
    files'.isReadOnly place = files.isReadOnly place := by
  unfold Files.isReadOnly
  rw [h.readOnly]

/-! ## The same files -/

/-- Two file systems that hold the same at every place. -/
structure Same (files files' : Files) : Prop where
  here : files'.here = files.here
  readOnly : files'.readOnly = files.readOnly
  unreadable : files'.unreadable = files.unreadable
  nodes : ∀ q, files'.node? q = files.node? q

theorem Same.refl (files : Files) : Same files files := by
  constructor <;> simp

theorem Same.trans (h : Same files files') (h' : Same files' after) : Same files after where
  here := h'.here.trans h.here
  readOnly := h'.readOnly.trans h.readOnly
  unreadable := h'.unreadable.trans h.unreadable
  nodes q := (h'.nodes q).trans (h.nodes q)

theorem Same.sameFolders (h : Same files files') : SameFolders files files' where
  here := h.here
  readOnly := h.readOnly
  unreadable := h.unreadable
  folders q := by rw [h.nodes]

theorem Same.put (h : Same files files') (hplace : place ≠ []) :
    Same (files.put place node) (files'.put place node) where
  here := h.here
  readOnly := h.readOnly
  unreadable := h.unreadable
  nodes q := by rw [node?_put hplace, node?_put hplace, h.nodes]

theorem put_comm {other : Node} (hp : p ≠ []) (hq : q ≠ []) (hne : p ≠ q) :
    Same ((files.put p node).put q other) ((files.put q other).put p node) where
  here := rfl
  readOnly := rfl
  unreadable := rfl
  nodes r := by
    rw [node?_put hp, node?_put hq, node?_put hq, node?_put hp]
    by_cases hr : r = p
    · rw [if_pos hr, if_neg (fun h => hne (hr.symm.trans h)), if_pos hr]
    · rw [if_neg hr, if_neg hr]

/-! ## Walking -/

theorem walk_append (files : Files) (place : Location) (a b : List String) :
    files.walk place (a ++ b) = (files.walk place a).bind fun p => files.walk p b := by
  induction a generalizing place with
  | nil => rfl
  | cons name rest ih =>
    rw [List.cons_append, walk, walk]
    split
    · split
      · rfl
      · exact ih (step place name)
    · rfl
    · rfl

theorem walk_cons (files : Files) (place : Location) (name : String) (rest : List String) :
    files.walk place (name :: rest) = .ok q ↔
      files.node? place = some .folder ∧ name.utf8ByteSize ≤ nameLimit ∧
        files.walk (step place name) rest = .ok q := by
  rw [walk]
  split
  · rename_i hfolder
    split
    · rename_i hlong
      simp [hfolder, Nat.not_le.2 hlong]
    · rename_i hshort
      simp [hfolder, Nat.not_lt.1 hshort]
  · rename_i content hfile
    simp [hfile]
  · rename_i hnone
    simp [hnone]

theorem walk_one (files : Files) (place : Location) (name : String) :
    files.walk place [name] = .ok q ↔
      files.node? place = some .folder ∧ name.utf8ByteSize ≤ nameLimit ∧ q = step place name := by
  rw [walk_cons, walk, Except.ok.injEq, eq_comm (a := q)]

theorem SameFolders.walk (h : SameFolders files files') (start : Location) (names : List String) :
    files'.walk start names = .ok q ↔ files.walk start names = .ok q := by
  induction names generalizing start with
  | nil => rfl
  | cons name rest ih => rw [walk_cons, walk_cons, h.folders, ih]

theorem SameFolders.locate (h : SameFolders files files') (path : String) :
    files'.locate path = .ok q ↔ files.locate path = .ok q := by
  have hstart : files'.start path = files.start path := by
    unfold start
    rw [h.here]
  unfold Files.locate
  rw [hstart]
  split
  · rfl
  · exact h.walk (files.start path) (Path.names path)

theorem isFolder_iff {folder : String} :
    files.isFolder folder = true ↔
      ∃ place, files.locate folder = .ok place ∧ files.node? place = some .folder := by
  unfold isFolder find?
  cases files.locate folder <;> simp

theorem SameFolders.isFolder (h : SameFolders files files') (folder : String) :
    files'.isFolder folder = files.isFolder folder := by
  rw [Bool.eq_iff_iff, isFolder_iff, isFolder_iff]
  simp only [h.locate, h.folders]

/-! ## Reading -/

theorem content?_eq_some_iff {path : String} {content : List UInt8} :
    files.content? path = some content ↔
      ∃ place, files.locate path = .ok place ∧ files.node? place = some (.file content) := by
  unfold content? find?
  cases files.locate path with
  | error f => simp
  | ok place =>
    simp only [Except.ok.injEq, exists_eq_left']
    cases files.node? place with
    | none => simp
    | some node => cases node <;> simp

theorem content?_put_self {path : String} {content : List UInt8} (hplace : place ≠ [])
    (hfree : files.node? place ≠ some .folder) (hpath : files.locate path = .ok place) :
    (files.put place (.file content)).content? path = some content := by
  have hsame : SameFolders files (files.put place (.file content)) :=
    sameFolders_put_file hplace hfree
  refine content?_eq_some_iff.2 ⟨place, (hsame.locate path).2 hpath, ?_⟩
  rw [node?_put hplace, if_pos rfl]

theorem content?_put_of_ne {path : String} {content : List UInt8} (hplace : place ≠ [])
    (hfree : files.node? place ≠ some .folder) (hpath : files.locate path ≠ .ok place) :
    (files.put place (.file content)).content? path = files.content? path := by
  have hsame : SameFolders files (files.put place (.file content)) :=
    sameFolders_put_file hplace hfree
  refine Option.ext fun found => ?_
  rw [content?_eq_some_iff, content?_eq_some_iff]
  refine exists_congr fun q => ?_
  rw [hsame.locate path, node?_put hplace]
  refine and_congr_right fun hq => ?_
  have hne : q ≠ place := by
    rintro rfl
    exact hpath hq
  rw [if_neg hne]

theorem read_of_isFile_eq_false {path : String} (h : files.isFile path = false) :
    ∃ f, files.read path = .error f := by
  unfold Files.read
  unfold isFile content? find? at h
  cases hplace : files.locate path with
  | error f => exact ⟨f, rfl⟩
  | ok place =>
    simp only [bind, Except.bind]
    cases hnode : files.node? place with
    | none => exact ⟨_, rfl⟩
    | some node =>
      cases node with
      | folder => exact ⟨_, rfl⟩
      | file content => simp [hplace, hnode] at h

theorem SameFolders.read (h : SameFolders files files') {path : String}
    (hcontent : files'.content? path = files.content? path) (hfile : files.isFile path = true) :
    files'.read path = files.read path := by
  obtain ⟨content, hsome⟩ := Option.isSome_iff_exists.1 hfile
  obtain ⟨place, hplace, hnode⟩ := content?_eq_some_iff.1 hsome
  obtain ⟨place', hplace', hnode'⟩ := content?_eq_some_iff.1 (hcontent.trans hsome)
  obtain rfl := Except.ok.inj (((h.locate path).1 hplace').symm.trans hplace)
  unfold Files.read
  rw [hplace, hplace']
  simp only [bind, Except.bind, hnode, hnode', h.unreadable]

end MapStandin.Files
