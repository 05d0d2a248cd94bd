import Mathlib.Tactic.SplitIfs
import MapStandin.Proofs.Files.Folders

/-! # Files in folders

What a path leads to after a file was written, and the place of a file that is named inside a
folder. -/

namespace MapStandin

/-! ## Files inside a folder -/

namespace Path

/-- A name of a file: as a path it leads to a place of its own in the folder it starts from. -/
structure IsFileName (name : String) : Prop where
  noSlash : '/' ∉ name.toList
  noNull : '\x00' ∉ name.toList
  notIdle : isIdle name = false
  notUp : name ≠ ".."
  short : name.utf8ByteSize ≤ Files.nameLimit

variable {folder name : String}

theorem IsFileName.ne_nil (h : IsFileName name) : name.toList ≠ [] := by
  intro hnil
  have hempty : name = "" := String.toList_eq_nil_iff.1 hnil
  have hidle := h.notIdle
  rw [hempty] at hidle
  simp [isIdle] at hidle

theorem IsFileName.relative (h : IsFileName name) : Text.startsWith "/" name = false := by
  rw [Bool.eq_false_iff, ne_eq, Text.startsWith_iff]
  rintro ⟨rest, hrest⟩
  apply h.noSlash
  rw [← hrest]
  simp

theorem toList_join (hf : folder ≠ "") (h : IsFileName name) :
    ∃ way, (join folder name).toList = way ++ '/' :: name.toList ∧
      (folder.toList = way ∨ folder.toList = way ++ ['/']) := by
  unfold join
  rw [h.relative, Bool.false_or, if_neg (by simpa using hf)]
  split
  · rename_i hslash
    obtain ⟨way, hway⟩ := Text.endsWith_iff.1 hslash
    refine ⟨way, ?_, Or.inr hway.symm⟩
    rw [String.toList_append, ← hway]
    simp
  · refine ⟨folder.toList, ?_, Or.inl rfl⟩
    rw [String.toList_append, String.toList_append]
    simp

theorem names_join (hf : folder ≠ "") (h : IsFileName name) :
    ∃ way, names (join folder name) = way ++ [name] ∧
      (names folder = way ∨ names folder = way ++ [""]) := by
  obtain ⟨way, hjoin, hfolder⟩ := toList_join hf h
  refine ⟨(Text.fields '/' way).map String.ofList, ?_, ?_⟩
  · unfold names
    rw [hjoin, Text.fields_append_sep, Text.fields_of_not_mem h.noSlash]
    simp
  · unfold names
    rcases hfolder with hfolder | hfolder
    · left
      rw [hfolder]
    · right
      rw [hfolder, Text.fields_append_sep]
      simp [Text.fields]

theorem startsWith_join (hf : folder ≠ "") (h : IsFileName name) :
    Text.startsWith "/" (join folder name) = Text.startsWith "/" folder := by
  rw [Bool.eq_iff_iff, Text.startsWith_iff, Text.startsWith_iff]
  obtain ⟨way, hjoin, hfolder⟩ := toList_join hf h
  have hne : folder.toList ≠ [] := fun hnil => hf (String.toList_eq_nil_iff.1 hnil)
  rw [hjoin]
  cases way with
  | nil =>
    rcases hfolder with hfolder | hfolder
    · exact absurd hfolder hne
    · rw [hfolder]
      simp
  | cons c rest =>
    rcases hfolder with hfolder | hfolder <;>
      · rw [hfolder]
        simp

theorem endsWith_join (hf : folder ≠ "") (h : IsFileName name) :
    Text.endsWith "/" (join folder name) = false := by
  rw [Bool.eq_false_iff, ne_eq, Text.endsWith_iff]
  obtain ⟨way, hjoin, -⟩ := toList_join hf h
  rcases List.eq_nil_or_concat name.toList with hnil | ⟨front, c, hname⟩
  · exact absurd hnil h.ne_nil
  rw [List.concat_eq_append] at hname
  rw [hjoin, hname]
  rintro ⟨before, hbefore⟩
  have heq : before ++ ['/'] = (way ++ '/' :: front) ++ [c] := by
    rw [List.append_assoc, List.cons_append]
    exact hbefore
  have hlast : ['/'] = [c] := List.append_inj_right' heq rfl
  apply h.noSlash
  rw [hname, (List.cons_eq_cons.1 hlast).1]
  simp

end Path

namespace Files

variable {files : Files} {folder name : String} {place q : Location}

theorem ne_empty_of_locate (h : files.locate folder = .ok place) : folder ≠ "" := by
  rintro rfl
  simp [locate, pathFault?] at h

theorem pathFault?_of_locate (h : files.locate folder = .ok place) : pathFault? folder = none := by
  unfold locate at h
  split at h
  · simp at h
  · assumption

theorem walk_of_locate (h : files.locate folder = .ok place) :
    files.walk (files.start folder) (Path.names folder) = .ok place := by
  unfold locate at h
  rw [pathFault?_of_locate (by unfold locate; exact h)] at h
  exact h

theorem walk_way {start : Location} {names way : List String}
    (h : files.walk start names = .ok place) (hway : names = way ∨ names = way ++ [""]) :
    files.walk start way = .ok place := by
  rcases hway with rfl | rfl
  · exact h
  · rw [walk_append] at h
    cases hw : files.walk start way with
    | error f =>
      rw [hw] at h
      simp [Except.bind] at h
    | ok p =>
      rw [hw] at h
      obtain ⟨-, -, rfl⟩ := (walk_one files p "").1 h
      rfl

theorem pathFault?_join (hn : Path.IsFileName name) (h : files.locate folder = .ok place) :
    pathFault? (Path.join folder name) =
      if pathLimit ≤ (Path.join folder name).utf8ByteSize then some .tooLong else none := by
  have hfolder := pathFault?_of_locate h
  have hf := ne_empty_of_locate h
  obtain ⟨way, hjoin, hway⟩ := Path.toList_join hf hn
  have hnull : '\x00' ∉ folder.toList := by
    intro hmem
    simp [pathFault?, hmem] at hfolder
  have hnojoin : '\x00' ∉ (Path.join folder name).toList := by
    rw [hjoin]
    have hway' : '\x00' ∉ way := by
      rcases hway with hway | hway <;> rw [hway] at hnull
      · exact hnull
      · exact fun hmem => hnull (List.mem_append_left _ hmem)
    simp [hway', hn.noNull]
  have hne : Path.join folder name ≠ "" := by
    intro hempty
    rw [hempty] at hjoin
    simp at hjoin
  unfold pathFault?
  rw [if_neg (by simpa using hnojoin), if_neg (by simpa using hne)]

theorem start_join (hn : Path.IsFileName name) (h : files.locate folder = .ok place) :
    files.start (Path.join folder name) = files.start folder := by
  unfold start
  rw [Path.startsWith_join (ne_empty_of_locate h) hn]

theorem locate_join (hn : Path.IsFileName name) (h : files.locate folder = .ok place)
    (hfolder : files.node? place = some .folder)
    (hshort : (Path.join folder name).utf8ByteSize < pathLimit) :
    files.locate (Path.join folder name) = .ok (place ++ [name]) := by
  unfold locate
  rw [pathFault?_join hn h, if_neg (Nat.not_le.2 hshort)]
  obtain ⟨way, hnames, hway⟩ := Path.names_join (ne_empty_of_locate h) hn
  simp only [start_join hn h, hnames, walk_append, walk_way (walk_of_locate h) hway]
  refine (walk_one files place name).2 ⟨hfolder, hn.short, ?_⟩
  simp [step, hn.notIdle, hn.notUp]

theorem target_join_eq (hn : Path.IsFileName name) (h : files.locate folder = .ok place)
    (hfolder : files.node? place = some .folder) :
    files.target (Path.join folder name) =
      if pathLimit ≤ (Path.join folder name).utf8ByteSize then .error .tooLong
      else if files.node? (place ++ [name]) = some .folder then .error .isFolder
      else if files.isReadOnly (place ++ [name]) then .error .readOnly
      else .ok (place ++ [name]) := by
  obtain ⟨way, hnames, hway⟩ := Path.names_join (ne_empty_of_locate h) hn
  -- The name is the last one on the path, as it is not empty.
  have hlast : (Path.names (Path.join folder name)).reverse.dropWhile (·.isEmpty) =
      name :: way.reverse := by
    have hne : name ≠ "" := fun hempty => hn.ne_nil (by rw [hempty]; rfl)
    rw [hnames, List.reverse_append, List.reverse_singleton, List.singleton_append,
      List.dropWhile_cons_of_neg (by simpa using hne)]
  unfold target
  rw [pathFault?_join hn h, hlast]
  by_cases hlong : pathLimit ≤ (Path.join folder name).utf8ByteSize
  · rw [if_pos hlong, if_pos hlong]
    rfl
  · rw [if_neg hlong, if_neg hlong]
    simp only [start_join hn h, List.headD_cons, List.tail_cons, List.reverse_reverse,
      walk_way (walk_of_locate h) hway, Path.endsWith_join (ne_empty_of_locate h) hn,
      hn.notIdle, hn.notUp, Nat.not_lt.2 hn.short]
    simp only [bind, Except.bind, pure, Except.pure, throw, throwThe, MonadExceptOf.throw, hfolder,
      Bool.or_self, decide_false, Bool.false_eq_true, if_false]
    by_cases hnode : files.node? (place ++ [name]) = some .folder
    · simp [hnode]
    · by_cases hclosed : files.isReadOnly (place ++ [name]) = true
      · simp [hnode, hclosed]
      · simp [hnode, hclosed]

theorem target_join (hn : Path.IsFileName name) (h : files.locate folder = .ok place)
    (hfolder : files.node? place = some .folder) :
    files.target (Path.join folder name) = .ok q ↔
      (Path.join folder name).utf8ByteSize < pathLimit ∧
        files.node? (place ++ [name]) ≠ some .folder ∧
        files.isReadOnly (place ++ [name]) = false ∧ q = place ++ [name] := by
  rw [target_join_eq hn h hfolder]
  split_ifs with hlong hnode hclosed
  · simp [Nat.not_lt.2 hlong]
  · simp [hnode]
  · simp [hclosed]
  · simp [hnode, hclosed, Nat.not_le.1 hlong, eq_comm]

theorem target_ne_nil {path : String} (h : files.target path = .ok place) : place ≠ [] := by
  unfold target at h
  simp only [bind, Except.bind, pure, Except.pure, throw, throwThe, MonadExceptOf.throw] at h
  split at h
  · cases h
  · split at h
    · cases h
    · split at h
      · cases h
      · cases h
      · split_ifs at h
        obtain rfl := Except.ok.inj h
        exact List.append_ne_nil_of_right_ne_nil _ (List.cons_ne_nil _ _)

theorem SameFolders.target_join {files' : Files} (same : SameFolders files files')
    (hn : Path.IsFileName name) (hfolder : files.isFolder folder = true) :
    files'.target (Path.join folder name) = files.target (Path.join folder name) := by
  obtain ⟨place, hplace, hnode⟩ := isFolder_iff.1 hfolder
  rw [target_join_eq hn hplace hnode,
    target_join_eq hn ((same.locate folder).2 hplace) ((same.folders place).2 hnode)]
  simp only [same.folders, same.isReadOnly]

/-- The folder exists, and a file of the name can be created or overwritten in it. -/
def CanHold (files : Files) (folder name : String) : Prop :=
  match files.locate folder with
  | .error _ => False
  | .ok place =>
    files.node? place = some .folder ∧ (Path.join folder name).utf8ByteSize < pathLimit ∧
      files.node? (place ++ [name]) ≠ some .folder ∧ files.isReadOnly (place ++ [name]) = false

instance (files : Files) (folder name : String) : Decidable (files.CanHold folder name) :=
  match h : files.locate folder with
  | .error _ => .isFalse (by simp [CanHold, h])
  | .ok place => decidable_of_iff
      (files.node? place = some .folder ∧ (Path.join folder name).utf8ByteSize < pathLimit ∧
        files.node? (place ++ [name]) ≠ some .folder ∧ files.isReadOnly (place ++ [name]) = false)
      (by simp [CanHold, h])

/-- A file can be held where the folder exists and the path into it can be written. -/
theorem canHold_iff (hn : Path.IsFileName name) :
    files.CanHold folder name ↔
      files.isFolder folder = true ∧ ∃ q, files.target (Path.join folder name) = .ok q := by
  rw [isFolder_iff]
  unfold CanHold
  cases h : files.locate folder with
  | error f => simp
  | ok place =>
    constructor
    · rintro ⟨hfolder, hshort, hnode, hopen⟩
      exact ⟨⟨place, rfl, hfolder⟩, place ++ [name],
        (target_join hn h hfolder).2 ⟨hshort, hnode, hopen, rfl⟩⟩
    · rintro ⟨⟨place', hplace, hfolder⟩, q, hq⟩
      obtain rfl := Except.ok.inj hplace
      obtain ⟨hshort, hnode, hopen, -⟩ := (target_join hn h hfolder).1 hq
      exact ⟨hfolder, hshort, hnode, hopen⟩

/-! ## Writing into a folder -/

/-- The files `after` differ from `files` by a file of this name and content inside a folder. -/
structure Writes (files after : Files) (folder name : String) (content : List UInt8) : Prop where
  folders : ∀ q, after.node? q = some .folder ↔ files.node? q = some .folder
  others : ∃ place, files.locate folder = .ok place ∧
    ∀ q, q ≠ place ++ [name] → after.node? q = files.node? q
  content : after.content? (Path.join folder name) = some content

theorem CanHold.writes {content : List UInt8} (h : files.CanHold folder name)
    (hn : Path.IsFileName name) (hplace : files.locate folder = .ok place) :
    files.Writes (files.put (place ++ [name]) (.file content)) folder name content := by
  unfold CanHold at h
  rw [hplace] at h
  obtain ⟨hfolder, hshort, hnode, -⟩ := h
  have hne : place ++ [name] ≠ [] := by simp
  constructor
  case folders => exact (sameFolders_put_file hne hnode).folders
  case others =>
    refine ⟨place, hplace, ?_⟩
    intro q hq
    rw [node?_put hne, if_neg hq]
  case content =>
    have hjoin := locate_join hn hplace hfolder hshort
    have hafter : (files.put (place ++ [name]) (.file content)).locate (Path.join folder name) =
        .ok (place ++ [name]) := ((sameFolders_put_file hne hnode).locate _).2 hjoin
    unfold content? find?
    rw [hafter]
    simp only [node?_put hne, if_true]

end Files

end MapStandin
