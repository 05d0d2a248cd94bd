import MapStandin.Settings.Way

/-! # Values at the end of a way

What is put along a way of names stands inside tables that do not depend on it, and it stays there
while other values are put along ways that part from it. -/

namespace MapStandin.Settings

variable {name other : String} {before after : Entries} {v : Value}

/-! ## Entries -/

def Free (name : String) (entries : Entries) : Prop := ∀ e ∈ entries, e.1 ≠ name

theorem alter_at (name : String) (entries : Entries) :
    ∃ before after, Free name before ∧ ∃ old, ∀ f : Option Value → Value,
      alter name f entries = before ++ (name, f old) :: after := by
  induction entries with
  | nil => exact ⟨[], [], nofun, none, fun f => rfl⟩
  | cons e entries ih =>
    obtain ⟨n, u⟩ := e
    by_cases hn : n = name
    · subst hn
      exact ⟨[], entries, nofun, some u, fun f => by simp [alter]⟩
    · obtain ⟨before, after, hfree, old, halter⟩ := ih
      exact ⟨(n, u) :: before, after, List.forall_mem_cons.2 ⟨hn, hfree⟩, old,
        fun f => by simp [alter, hn, halter f]⟩

theorem alter_same (hfree : Free name before) (f : Option Value → Value) :
    alter name f (before ++ (name, v) :: after) = before ++ (name, f (some v)) :: after := by
  induction before with
  | nil => simp [alter]
  | cons e before ih =>
    obtain ⟨hn, hfree⟩ := List.forall_mem_cons.1 hfree
    simp [alter, hn, ih hfree]

theorem alter_other (hother : other ≠ name) (hfree : Free name before) (f : Option Value → Value) :
    ∃ before' after', Free name before' ∧
      ∀ v, alter other f (before ++ (name, v) :: after) = before' ++ (name, v) :: after' := by
  induction before with
  | nil => exact ⟨[], alter other f after, nofun, fun v => by simp [alter, hother.symm]⟩
  | cons e before ih =>
    obtain ⟨n, u⟩ := e
    obtain ⟨hn, hfree⟩ := List.forall_mem_cons.1 hfree
    by_cases hsame : n = other
    · exact ⟨(n, f (some u)) :: before, after, List.forall_mem_cons.2 ⟨hn, hfree⟩,
        fun v => by simp [alter, hsame]⟩
    · obtain ⟨before', after', hfree', halter⟩ := ih hfree
      exact ⟨(n, u) :: before', after', List.forall_mem_cons.2 ⟨hn, hfree'⟩,
        fun v => by simp [alter, hsame, halter v]⟩

theorem lookup_same (hfree : Free name before) :
    (before ++ (name, v) :: after).lookup name = some v := by
  induction before with
  | nil => simp
  | cons e before ih =>
    obtain ⟨hn, hfree⟩ := List.forall_mem_cons.1 hfree
    rw [List.cons_append, List.lookup_cons, beq_eq_false_iff_ne.2 hn.symm]
    exact ih hfree

theorem lookup_other (hother : other ≠ name) :
    (before ++ (name, v) :: after).lookup other = (before ++ after).lookup other := by
  induction before with
  | nil => rw [List.nil_append, List.lookup_cons, beq_eq_false_iff_ne.2 hother, List.nil_append]
  | cons e before ih =>
    rw [List.cons_append, List.cons_append, List.lookup_cons, List.lookup_cons, ih]

/-! ## Tables around a value -/

/-- A table around the value under one of its names. -/
structure Frame where
  before : Entries
  name : String
  after : Entries
  origin : Option Origin
  free : Free name before

def Frame.fill (f : Frame) (v : Value) : Value :=
  .table (f.before ++ (f.name, v) :: f.after) f.origin

/-- A value in tables, the outermost one first. -/
def fill (hole : List Frame) (v : Value) : Value := hole.foldr Frame.fill v

/-- The names that lead through tables to the value in them. -/
def wayTo (hole : List Frame) : List String := hole.map Frame.name

theorem exists_frame (name : String) (old : Option Value) :
    ∃ frame : Frame, frame.name = name ∧ ∃ inner, ∀ f : Option Value → Value,
      alterName name f old = frame.fill (f inner) := by
  have hnew : ∃ frame : Frame, frame.name = name ∧ ∃ inner, ∀ f : Option Value → Value,
      .table [(name, f none)] none = frame.fill (f inner) :=
    ⟨⟨[], name, [], none, nofun⟩, rfl, none, fun f => rfl⟩
  -- what is no table gives way to a new one
  match old with
  | none => exact hnew
  | some (.scalar s origin) => exact hnew
  | some (.list items origin) => exact hnew
  | some (.table entries origin) =>
    obtain ⟨before, after, hfree, inner, halter⟩ := alter_at name entries
    exact ⟨⟨before, name, after, origin, hfree⟩, rfl, inner,
      fun f => congrArg (Value.table · origin) (halter f)⟩

theorem alterName_fill (frame : Frame) (f : Option Value → Value) (v : Value) :
    alterName frame.name f (some (frame.fill v)) = frame.fill (f (some v)) :=
  congrArg (Value.table · frame.origin) (alter_same frame.free f)

theorem exists_hole (way : List String) (old : Option Value) :
    ∃ hole, wayTo hole = way ∧ ∀ (s : Scalar) (origin : Option Origin),
      putAlong (.scalar s origin) (way.map .name) old = fill hole (.scalar s origin) := by
  induction way generalizing old with
  | nil => exact ⟨[], rfl, fun s origin => rfl⟩
  | cons name way ih =>
    obtain ⟨frame, hname, inner, halter⟩ := exists_frame name old
    match way with
    | [] =>
      refine ⟨[frame], congrArg ([·]) hname, fun s origin => ?_⟩
      exact halter (merged (.scalar s origin))
    | next :: way =>
      obtain ⟨hole, hway, hput⟩ := ih inner
      refine ⟨frame :: hole, congr (congrArg List.cons hname) hway, fun s origin => ?_⟩
      exact (halter _).trans (congrArg frame.fill (hput s origin))

/-- Tables that hold nothing but the value in them. -/
def bare (way : List String) : List Frame := way.map fun name => ⟨[], name, [], none, nofun⟩

theorem wayTo_bare (way : List String) : wayTo (bare way) = way :=
  List.map_map.trans (List.map_id way)

theorem putAlong_none (s : Scalar) (origin : Option Origin) (way : List String) :
    putAlong (.scalar s origin) (way.map .name) none = fill (bare way) (.scalar s origin) := by
  induction way with
  | nil => rfl
  | cons name way ih =>
    match way with
    | [] => rfl
    | _ :: _ => exact congrArg (fun v => Value.table [(name, v)] none) ih

theorem putAlong_empty (s : Scalar) (origin : Option Origin) {way : List String} (h : way ≠ []) :
    putAlong (.scalar s origin) (way.map .name) (some (.table [] none)) =
      fill (bare way) (.scalar s origin) := by
  match way with
  | [] => exact absurd rfl h
  | [name] => rfl
  | name :: next :: way =>
    exact congrArg (fun v => Value.table [(name, v)] none) (putAlong_none s origin (next :: way))

/-! ## Ways that part -/

/-- A way parts from a way of names: where they first differ, both go to a name. -/
inductive Parted : List Step → List String → Prop
  | here {s name : String} (differ : s ≠ name) (way : List Step) (names : List String) :
      Parted (.name s :: way) (name :: names)
  | later {way : List Step} {names : List String} (name : String) (parted : Parted way names) :
      Parted (.name name :: way) (name :: names)

theorem putAlong_name (w : Value) (name : String) (way : List Step) :
    ∃ f, ∀ old, putAlong w (.name name :: way) old = alterName name f old := by
  match way with
  | [] => exact ⟨merged w, fun old => rfl⟩
  | step :: way => exact ⟨putAlong w (step :: way), fun old => rfl⟩

/-- What is put along a way that parts from it leaves a value in its place. -/
theorem exists_hole_of_parted {way : List Step} {hole : List Frame}
    (h : Parted way (wayTo hole)) (w : Value) :
    ∃ hole', wayTo hole' = wayTo hole ∧ ∀ v, putAlong w way (some (fill hole v)) = fill hole' v := by
  generalize hnames : wayTo hole = names at h
  -- the way is followed as long as it agrees with the way to the value
  induction h generalizing hole with
  | here differ way names =>
    match hole with
    | frame :: hole =>
      obtain ⟨hname, hrest⟩ := List.cons.inj hnames
      obtain ⟨f, hput⟩ := putAlong_name w _ way
      obtain ⟨before, after, hfree, halter⟩ := alter_other (hname ▸ differ) frame.free f
      refine ⟨⟨before, frame.name, after, frame.origin, hfree⟩ :: hole, hnames, fun v => ?_⟩
      rw [hput]
      exact congrArg (Value.table · frame.origin) (halter (fill hole v))
  | @later way names name parted ih =>
    match hole with
    | frame :: hole =>
      obtain ⟨hname, hrest⟩ := List.cons.inj hnames
      obtain ⟨hole', hway', hput⟩ := ih hrest
      refine ⟨frame :: hole', congr (congrArg List.cons hname) hway', fun v => ?_⟩
      have hnext : ∀ old, putAlong w (.name name :: way) old =
          alterName name (putAlong w way) old := fun old => by cases parted <;> rfl
      rw [hnext, ← hname]
      exact (alterName_fill frame _ _).trans (congrArg frame.fill (hput v))

end MapStandin.Settings
