import MapStandin.Proofs.Desktop.View

/-! # Runs one after another

No result file changes what a later run sees. A run in a sequence ends as it would end first of all,
each folder keeps the result of the last run into it, and runs into different folders can change
places. -/

namespace MapStandin.Desktop

open Parameter

/-- Runs one after another: the status of each, and the files after the last. -/
def runAll (c : Convention) (files : Files) : List (List (List UInt8)) → List ExitStatus × Files
  | [] => ([], files)
  | arguments :: rest =>
    let run := runBytes c files arguments
    let (statuses, after) := runAll c run.files rest
    (run.status :: statuses, after)

variable {start files files' : Files} {arguments a b : List (List UInt8)}
  {runs runs' : List (List (List UInt8))} {folder q : Location} {content : List UInt8}

theorem runAll_append (c : Convention) (files : Files) (runs runs' : List (List (List UInt8))) :
    (runAll c files (runs ++ runs')).2 = (runAll c (runAll c files runs).2 runs').2 := by
  induction runs generalizing files with
  | nil => rfl
  | cons arguments rest ih => exact ih (runBytes c files arguments).files

theorem runAll_sameFolders (c : Convention) (files : Files) (runs : List (List (List UInt8))) :
    files.SameFolders (runAll c files runs).2 := by
  induction runs generalizing files with
  | nil => exact .refl files
  | cons arguments rest ih =>
    exact (runBytes_sameFolders c files arguments).trans (ih (runBytes c files arguments).files)

/-! ## The statuses -/

theorem runAll_statuses (same : start.SameFolders files) :
    (runAll .flags files runs).1 =
      runs.map fun arguments => (runBytes .flags start arguments).status := by
  -- The induction carries the folders: they are those of `start` after any number of runs.
  induction runs generalizing files with
  | nil => rfl
  | cons arguments rest ih =>
    have hsees : Alike .flags arguments start files := alike_flags same
    have hstatus := status_congr hsees
    have hrest := ih (same.trans (runBytes_sameFolders .flags files arguments))
    rw [List.map_cons, ← hstatus, ← hrest]
    rfl

/-! ## The result files -/

/-- What a run with flags does is settled by the folders: wherever they are those of `start`, it
writes the same file or nothing. -/
theorem runFlags_settled (start : Files) (arguments : List (List UInt8)) :
    (∃ folder content, Leaves .flags start arguments folder content ∧
      ∀ files, start.SameFolders files → (runBytes .flags files arguments).files =
        files.put (folder ++ ["result_v1.txt"]) (.file content)) ∨
    ((∀ folder content, ¬ Leaves .flags start arguments folder content) ∧
      ∀ files, start.SameFolders files → (runBytes .flags files arguments).files = files) := by
  by_cases hleaves : ∃ folder content, Leaves .flags start arguments folder content
  · obtain ⟨folder, content, hleaves⟩ := hleaves
    refine Or.inl ⟨folder, content, hleaves, fun files same => ?_⟩
    exact ((leaves_congr (alike_flags same)).2 hleaves).files_eq
  · have hnone : ∀ folder content, ¬ Leaves .flags start arguments folder content :=
      fun folder content h => hleaves ⟨folder, content, h⟩
    refine Or.inr ⟨hnone, fun files same => files_eq_of_not_leaves ?_⟩
    intro folder content h
    exact hnone folder content ((leaves_congr (alike_flags same)).1 h)

/-- A run leaves a result at this place, seen from the files at the start. -/
def LeavesAt (start : Files) (q : Location) (arguments : List (List UInt8)) : Prop :=
  ∃ folder content, Leaves .flags start arguments folder content ∧ q = folder ++ ["result_v1.txt"]

theorem leavesAt_iff : LeavesAt start (folder ++ ["result_v1.txt"]) arguments ↔
    ∃ content, Leaves .flags start arguments folder content := by
  constructor
  · rintro ⟨folder', content, hleaves, hplace⟩
    obtain rfl := List.append_inj_left' hplace rfl
    exact ⟨content, hleaves⟩
  · rintro ⟨content, hleaves⟩
    exact ⟨folder, content, hleaves, rfl⟩

theorem node?_of_not_leavesAt (same : start.SameFolders files) (h : ¬ LeavesAt start q arguments) :
    (runBytes .flags files arguments).files.node? q = files.node? q := by
  rcases runFlags_settled start arguments with ⟨folder, content, hleaves, hfiles⟩ | ⟨-, hfiles⟩
  · rw [hfiles files same, Files.node?_put (by simp), if_neg]
    exact fun hq => h ⟨folder, content, hleaves, hq⟩
  · rw [hfiles files same]

theorem node?_of_leaves (same : start.SameFolders files)
    (h : Leaves .flags start arguments folder content) :
    (runBytes .flags files arguments).files.node? (folder ++ ["result_v1.txt"]) =
      some (.file content) := by
  rw [((leaves_congr (alike_flags same)).2 h).files_eq, Files.node?_put (by simp)]
  exact if_pos rfl

theorem runAll_untouched (same : start.SameFolders files) (h : ∀ a ∈ runs, ¬ LeavesAt start q a) :
    (runAll .flags files runs).2.node? q = files.node? q := by
  induction runs generalizing files with
  | nil => rfl
  | cons arguments rest ih =>
    have hrest := ih (same.trans (runBytes_sameFolders .flags files arguments))
      fun a ha => h a (List.mem_cons_of_mem _ ha)
    exact hrest.trans (node?_of_not_leavesAt same (h arguments List.mem_cons_self))

/-- The last run that leaves a result in the folder leaves this one. -/
def LastResult (start : Files) (runs : List (List (List UInt8))) (folder : Location)
    (content : List UInt8) : Prop :=
  ∃ before arguments after, runs = before ++ arguments :: after ∧
    Leaves .flags start arguments folder content ∧
    ∀ later ∈ after, ∀ other, ¬ Leaves .flags start later folder other

theorem lastResult_or_none (start : Files) (runs : List (List (List UInt8))) (folder : Location) :
    (∃ content, LastResult start runs folder content) ∨
      ∀ arguments ∈ runs, ∀ content, ¬ Leaves .flags start arguments folder content := by
  induction runs with
  | nil => exact Or.inr (by simp)
  | cons arguments rest ih =>
    rcases ih with ⟨content, before, last, after, rfl, hlast, hlater⟩ | hnone
    · exact Or.inl ⟨content, arguments :: before, last, after, rfl, hlast, hlater⟩
    · by_cases hleaves : ∃ content, Leaves .flags start arguments folder content
      · obtain ⟨content, hleaves⟩ := hleaves
        exact Or.inl ⟨content, [], arguments, rest, rfl, hleaves, hnone⟩
      · rw [not_exists] at hleaves
        exact Or.inr (List.forall_mem_cons.2 ⟨hleaves, hnone⟩)

theorem runAll_lastResult (same : start.SameFolders files)
    (h : LastResult start runs folder content) :
    (runAll .flags files runs).2.node? (folder ++ ["result_v1.txt"]) = some (.file content) := by
  obtain ⟨before, arguments, after, rfl, hleaves, hlater⟩ := h
  rw [runAll_append]
  have hbefore := same.trans (runAll_sameFolders .flags files before)
  have hafter := hbefore.trans
    (runBytes_sameFolders .flags (runAll .flags files before).2 arguments)
  refine (runAll_untouched hafter ?_).trans (node?_of_leaves hbefore hleaves)
  intro later hmem hat
  obtain ⟨other, hother⟩ := leavesAt_iff.1 hat
  exact hlater later hmem other hother

/-! ## Another order -/

theorem runBytes_same (h : files.Same files') (arguments : List (List UInt8)) :
    (runBytes .flags files arguments).files.Same (runBytes .flags files' arguments).files := by
  rcases runFlags_settled files arguments with ⟨folder, content, -, hfiles⟩ | ⟨-, hfiles⟩
  · rw [hfiles files (.refl files), hfiles files' h.sameFolders]
    exact h.put (by simp)
  · rw [hfiles files (.refl files), hfiles files' h.sameFolders]
    exact h

theorem runAll_same (h : files.Same files') (runs : List (List (List UInt8))) :
    (runAll .flags files runs).2.Same (runAll .flags files' runs).2 := by
  induction runs generalizing files files' with
  | nil => exact h
  | cons arguments rest ih => exact ih (runBytes_same h arguments)

/-- The two runs leave no results in one folder. -/
def Apart (start : Files) (a b : List (List UInt8)) : Prop :=
  ∀ folder content content', Leaves .flags start a folder content →
    ¬ Leaves .flags start b folder content'

theorem runBytes_comm (same : start.SameFolders files) (h : Apart start a b) :
    (runBytes .flags (runBytes .flags files a).files b).files.Same
      (runBytes .flags (runBytes .flags files b).files a).files := by
  have ha := same.trans (runBytes_sameFolders .flags files a)
  have hb := same.trans (runBytes_sameFolders .flags files b)
  rcases runFlags_settled start a with ⟨folder, content, hleaves, hfiles⟩ | ⟨-, hfiles⟩
  · rcases runFlags_settled start b with ⟨folder', content', hleaves', hfiles'⟩ | ⟨-, hfiles'⟩
    · rw [hfiles' _ ha, hfiles _ same, hfiles _ hb, hfiles' _ same]
      refine Files.put_comm (by simp) (by simp) fun hplace => ?_
      obtain rfl := List.append_inj_left' hplace rfl
      exact h folder content content' hleaves hleaves'
    · rw [hfiles' _ ha, hfiles' _ same]
      exact .refl _
  · rw [hfiles _ same, hfiles _ hb]
    exact .refl _

/-- The second list of runs comes from the first one by changing neighbours that leave no results in
one folder, again and again. -/
inductive Reordered (start : Files) : List (List (List UInt8)) → List (List (List UInt8)) → Prop
  | refl (runs : List (List (List UInt8))) : Reordered start runs runs
  | swap {a b : List (List UInt8)} (before after : List (List (List UInt8)))
      (apart : Apart start a b) :
      Reordered start (before ++ a :: b :: after) (before ++ b :: a :: after)
  | trans {runs runs' runs'' : List (List (List UInt8))} (first : Reordered start runs runs')
      (second : Reordered start runs' runs'') : Reordered start runs runs''

theorem Apart.symm (h : Apart start a b) : Apart start b a :=
  fun folder content content' hb ha => h folder content' content ha hb

theorem Reordered.cons (arguments : List (List UInt8)) (h : Reordered start runs runs') :
    Reordered start (arguments :: runs) (arguments :: runs') := by
  induction h with
  | refl runs => exact .refl _
  | swap before after apart => exact .swap (arguments :: before) after apart
  | trans first second ih ih' => exact ih.trans ih'

/-- Where no two runs leave results in one folder, every order comes by such changes. -/
theorem reordered_of_perm (hperm : runs.Perm runs') (apart : runs.Pairwise (Apart start)) :
    Reordered start runs runs' := by
  induction hperm with
  | nil => exact .refl []
  | cons arguments hperm ih => exact (ih (List.pairwise_cons.1 apart).2).cons arguments
  | swap a b after => exact .swap [] after ((List.pairwise_cons.1 apart).1 a List.mem_cons_self)
  | trans first second ih ih' =>
    have apart' := (first.pairwise_iff fun h => Apart.symm h).1 apart
    exact (ih apart).trans (ih' apart')

theorem Reordered.perm (h : Reordered start runs runs') : runs.Perm runs' := by
  induction h with
  | refl runs => exact .refl runs
  | swap before after apart => exact .append_left before (.swap ..)
  | trans first second ih ih' => exact ih.trans ih'

theorem Reordered.same (h : Reordered start runs runs') (same : start.SameFolders files) :
    (runAll .flags files runs).2.Same (runAll .flags files runs').2 := by
  induction h with
  | refl runs => exact .refl _
  | @swap a b before after apart =>
    rw [runAll_append, runAll_append]
    have hbefore := same.trans (runAll_sameFolders .flags files before)
    exact runAll_same (runBytes_comm hbefore apart) after
  | trans first second ih ih' => exact ih.trans ih'

/-! ## The whole sequence -/

/-- What a sequence of runs comes to. -/
structure SessionPost (start : Files) (runs : List (List (List UInt8)))
    (session : List ExitStatus × Files) : Prop where
  /-- Each run ends as it ends when it is the only one. -/
  statuses : session.1 = runs.map fun arguments => (runBytes .flags start arguments).status
  /-- A folder holds the result of the last run into it, or what it held. -/
  results : ∀ folder,
    (∃ content, LastResult start runs folder content ∧
      session.2.node? (folder ++ ["result_v1.txt"]) = some (.file content)) ∨
    ((∀ arguments ∈ runs, ∀ content, ¬ Leaves .flags start arguments folder content) ∧
      session.2.node? (folder ++ ["result_v1.txt"]) = start.node? (folder ++ ["result_v1.txt"]))
  others : ∀ q, (∀ arguments ∈ runs, ¬ LeavesAt start q arguments) →
    session.2.node? q = start.node? q
  folders : start.SameFolders session.2
  repeated : ∀ before arguments after, runs = before ++ arguments :: after →
    (runAll .flags start (before ++ arguments :: arguments :: after)).2 = session.2
  reordered : ∀ runs', Reordered start runs runs' →
    session.2.Same (runAll .flags start runs').2 ∧
      (runs.zip session.1).Perm (runs'.zip (runAll .flags start runs').1)
  permuted : ∀ runs', runs.Perm runs' → runs.Pairwise (Apart start) →
    session.2.Same (runAll .flags start runs').2 ∧
      (runs.zip session.1).Perm (runs'.zip (runAll .flags start runs').1)

theorem runAll_repeated (start : Files) (before after : List (List (List UInt8)))
    (arguments : List (List UInt8)) :
    (runAll .flags start (before ++ arguments :: arguments :: after)).2 =
      (runAll .flags start (before ++ arguments :: after)).2 := by
  rw [runAll_append, runAll_append]
  generalize (runAll .flags start before).2 = files
  have hagain := files_again (alike_flags (runBytes_sameFolders .flags files arguments))
  change (runAll .flags _ after).2 = (runAll .flags _ after).2
  rw [hagain]

theorem Reordered.statuses (h : Reordered start runs runs') :
    (runs.zip (runAll .flags start runs).1).Perm (runs'.zip (runAll .flags start runs').1) := by
  rw [runAll_statuses (.refl start), runAll_statuses (.refl start), ← List.map_prod_left_eq_zip,
    ← List.map_prod_left_eq_zip]
  exact h.perm.map _

/-- The file system has no links: two places are never one file, so each folder has a result file of
its own. -/
theorem runAll_session (start : Files) (runs : List (List (List UInt8))) :
    SessionPost start runs (runAll .flags start runs) := by
  constructor
  case statuses => exact runAll_statuses (.refl start)
  case results =>
    intro folder
    rcases lastResult_or_none start runs folder with ⟨content, hlast⟩ | hnone
    · exact Or.inl ⟨content, hlast, runAll_lastResult (.refl start) hlast⟩
    · refine Or.inr ⟨hnone, runAll_untouched (.refl start) ?_⟩
      intro arguments hmem hat
      obtain ⟨content, hleaves⟩ := leavesAt_iff.1 hat
      exact hnone arguments hmem content hleaves
  case others => exact fun q h => runAll_untouched (.refl start) h
  case folders => exact runAll_sameFolders .flags start runs
  case repeated =>
    rintro before arguments after rfl
    exact runAll_repeated start before after arguments
  case reordered => exact fun runs' h => ⟨h.same (.refl start), h.statuses⟩
  case permuted =>
    intro runs' hperm apart
    have h := reordered_of_perm hperm apart
    exact ⟨h.same (.refl start), h.statuses⟩

end MapStandin.Desktop
