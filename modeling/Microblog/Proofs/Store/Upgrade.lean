import Mathlib.Data.List.Infix
import Mathlib.Logic.Relation
import Microblog.Store.Migration

/-!
# An update that is cut short

An update is a list of statements without a transaction around them, and the noted version is
deleted before the next one is written.  So a process that stops in between can leave tables of the
next version behind an old version, or behind none at all.

What such a store always is, `Underway` says: as much is there as the noted version promises, and
the rows fit the indexes that are missing.  From there on the update has only one end,
`Store.upgraded`, and a cut moves the store towards it without moving the end:

* `Underway.run_updates`: an update of a store that is underway ends, and ends there.
* `Underway.run_cut`: after any of its statements the store is underway, and has the same end.

`Store.migrate_restartable` puts this together for the two stores that an update starts with: a new
one, and one that is complete at the first version.
-/

set_option autoImplicit false

namespace Microblog

/-! ## Adding what is missing -/

section Adding

variable {α : Type}

/-- A prefix of two lists in a row ends in the first one or in the second one. -/
theorem prefix_append_cases {l a b : List α} (h : l <+: a ++ b) :
    l <+: a ∨ ∃ c, c <+: b ∧ l = a ++ c := by
  obtain ⟨t, ht⟩ := h
  rcases List.append_eq_append_iff.1 ht with ⟨c, ha, -⟩ | ⟨c, hl, hb⟩
  · exact .inl ⟨c, ha.symm⟩
  · exact .inr ⟨c, ⟨t, hb.symm⟩, hl⟩

variable [DecidableEq α]

/-- A list with what it lacks of another one at its end. -/
def adding (l : List α) : List α → List α
  | [] => l
  | x :: xs => adding (if x ∈ l then l else l ++ [x]) xs

@[simp] theorem adding_nil (l : List α) : adding l [] = l := rfl

theorem adding_append (l xs ys : List α) : adding l (xs ++ ys) = adding (adding l xs) ys := by
  induction xs generalizing l with
  | nil => rfl
  | cons x xs ih => exact ih _

theorem mem_adding {l xs : List α} {a : α} : a ∈ adding l xs ↔ a ∈ l ∨ a ∈ xs := by
  induction xs generalizing l with
  | nil => simp
  | cons x xs ih =>
    rw [adding, ih]
    split <;> grind

theorem adding_of_subset {l xs : List α} (h : xs ⊆ l) : adding l xs = l := by
  induction xs with
  | nil => rfl
  | cons x xs ih =>
    rw [adding, if_pos (h List.mem_cons_self)]
    exact ih fun y hy ↦ h (List.mem_cons_of_mem _ hy)

theorem adding_of_prefix {l xs ys : List α} (h : xs <+: ys) :
    adding (adding l xs) ys = adding l ys := by
  obtain ⟨zs, rfl⟩ := h
  have hxs : xs ⊆ adding l xs := fun _ hx ↦ mem_adding.2 (.inr hx)
  rw [adding_append, adding_append, adding_of_subset hxs]

end Adding

/-! ## The stages of an update -/

/-- The tables of the first version. -/
def Table.first : List Table := [.users, .tweets, .likes, .follows, .notifications]

/-- The tables that the second version adds. -/
def Table.second : List Table := [.hashtags, .tagLinks]

/-- The indexes of the first version. -/
def Index.first : List Index := [.authors, .parents, .oneRetweet, .followed, .recipients]

/-- The indexes that the second version adds. -/
def Index.second : List Index := [.tags]

/-- All indexes. -/
def Index.all : List Index := Index.first ++ Index.second

theorem Table.mem_all (t : Table) : t ∈ Table.all := by cases t <;> decide

theorem Index.mem_all (i : Index) : i ∈ Index.all := by cases i <;> decide

namespace Migration

/-- Create tables, then indexes, and then note a version in place of the old one. -/
def stage (tables : List Table) (indexes : List Index) (v : Int) : List Migration :=
  tables.map .createTable ++ (indexes.map .createIndex ++ [.deleteVersions, .noteVersion v])

theorem first_eq : first = stage Table.first Index.first 1 := rfl

theorem second_eq : second = stage Table.second Index.second 2 := rfl

end Migration

namespace Store

open Migration

variable {s : Store} {T T' : List Table} {I I' : List Index} {vs : Option (List Int)} {v : Int}

/-! ## What a stage does -/

/-- A store with more tables and indexes, and with other versions noted. -/
def grow (s : Store) (T : List Table) (I : List Index) (vs : Option (List Int)) : Store :=
  { s with schema := ⟨adding s.schema.tables T, adding s.schema.indexes I, vs⟩ }

@[simp] theorem grow_versions : (s.grow T I vs).schema.versions = vs := rfl

@[simp] theorem fits_grow {i : Index} : fits (s.grow T I vs) i = fits s i := rfl

theorem grow_grow {ws : Option (List Int)} :
    (s.grow T I ws).grow T' I' vs = s.grow (T ++ T') (I ++ I') vs := by
  simp only [grow, adding_append]

/-- The tables and indexes that a store has. -/
structure Has (s : Store) (T : List Table) (I : List Index) : Prop where
  tables : T ⊆ s.schema.tables
  indexes : I ⊆ s.schema.indexes

theorem has_grow : (s.grow T I vs).Has T I where
  tables _ ht := mem_adding.2 (.inr ht)
  indexes _ hi := mem_adding.2 (.inr hi)

theorem Has.grow (h : s.Has T I) : (s.grow T' I' vs).Has T I where
  tables _ ht := mem_adding.2 (.inl (h.tables ht))
  indexes _ hi := mem_adding.2 (.inl (h.indexes hi))

/-- What is there already is not added. -/
theorem Has.grow_append (h : s.Has T I) : s.grow (T ++ T') (I ++ I') vs = s.grow T' I' vs := by
  simp only [Store.grow, adding_append, adding_of_subset h.tables, adding_of_subset h.indexes]

/-- The rows of a store fit the indexes that it lacks. -/
def Fits (s : Store) : Prop := ∀ i, s.schema.hasIndex i = true ∨ fits s i = true

theorem Fits.grow (h : s.Fits) : (s.grow T I vs).Fits := fun i ↦ by
  refine (h i).imp (fun hi ↦ ?_) id
  simp only [Schema.hasIndex, List.contains_iff_mem] at hi ⊢
  exact mem_adding.2 (.inl hi)

theorem run_append (ms ns : List Migration) :
    s.run (ms ++ ns) = (do (← s.run ms).run ns) := by
  induction ms generalizing s with
  | nil => rfl
  | cons m ms ih =>
    simp only [List.cons_append, run]
    cases execute s m with
    | error => rfl
    | ok s' => exact ih

theorem run_append_of_ok {s' : Store} {ms : List Migration} (h : s.run ms = .ok s')
    (ns : List Migration) : s.run (ms ++ ns) = s'.run ns := by
  rw [run_append, h]
  rfl

theorem run_createTables (s : Store) (T : List Table) :
    s.run (T.map .createTable) = .ok (s.grow T [] s.schema.versions) := by
  induction T generalizing s with
  | nil => rfl
  | cons t T ih =>
    have hstep : execute s (.createTable t) = .ok (s.grow [t] [] s.schema.versions) := by
      simp only [execute, grow, adding, Schema.hasTable, List.contains_iff_mem]
      split <;> rfl
    rw [List.map_cons, run, hstep]
    exact (ih _).trans (congrArg _ grow_grow)

theorem run_createIndexes (hfits : s.Fits) (htables : ∀ i ∈ I, i.table ∈ s.schema.tables) :
    s.run (I.map .createIndex) = .ok (s.grow [] I s.schema.versions) := by
  induction I generalizing s with
  | nil => rfl
  | cons i I ih =>
    have htable := htables i List.mem_cons_self
    have hstep : execute s (.createIndex i) = .ok (s.grow [] [i] s.schema.versions) := by
      have hi := hfits i
      simp only [Schema.hasIndex, List.contains_iff_mem] at hi
      simp only [execute, grow, adding, Schema.hasIndex, Schema.hasTable, List.contains_iff_mem,
        htable, not_true_eq_false, if_false]
      split
      · rfl
      · next hmissing => simp [hi.resolve_left hmissing]
    rw [List.map_cons, run, hstep]
    refine (ih hfits.grow fun j hj ↦ ?_).trans (congrArg _ grow_grow)
    exact htables j (List.mem_cons_of_mem _ hj)

theorem run_creates (hfits : s.Fits) (htables : ∀ i ∈ I, i.table ∈ T) :
    s.run (T.map .createTable ++ I.map .createIndex) = .ok (s.grow T I s.schema.versions) := by
  rw [run_append_of_ok (run_createTables s T),
    run_createIndexes hfits.grow fun i hi ↦ has_grow.tables (htables i hi), grow_grow,
    List.append_nil, List.nil_append, grow_versions]

theorem run_stage (hfits : s.Fits) (htables : ∀ i ∈ I, i.table ∈ T)
    (hnoted : s.schema.versions ≠ none) : s.run (stage T I v) = .ok (s.grow T I (some [v])) := by
  obtain ⟨ws, hws⟩ := Option.ne_none_iff_exists'.1 hnoted
  rw [stage, ← List.append_assoc, run_append_of_ok (run_creates hfits htables), hws]
  rfl

/-- **Wherever a stage is cut, it has added a part of its tables and indexes.**  It has noted its
version only if all of them are there. -/
theorem run_prefix_stage (hfits : s.Fits) (htables : ∀ i ∈ I, i.table ∈ T) {ws : List Int}
    (hws : s.schema.versions = some ws) {pre : List Migration} (hpre : pre <+: stage T I v) :
    ∃ T' I' vs', s.run pre = .ok (s.grow T' I' (some vs')) ∧ T' <+: T ∧ I' <+: I ∧
      (vs' = ws ∨ vs' = [] ∨ vs' = [v] ∧ T' = T ∧ I' = I) := by
  rcases prefix_append_cases hpre with hpre | ⟨rest, hrest, rfl⟩
  · -- the cut is among the tables
    obtain ⟨T', hT, rfl⟩ := List.prefix_map_iff.1 hpre
    exact ⟨T', [], ws, hws ▸ run_createTables s T', hT, List.nil_prefix, .inl rfl⟩
  rcases prefix_append_cases hrest with hindexes | ⟨last, hlast, rfl⟩
  · -- the cut is among the indexes
    obtain ⟨I', hI, rfl⟩ := List.prefix_map_iff.1 hindexes
    exact ⟨T, I', ws, hws ▸ run_creates hfits fun i hi ↦ htables i (hI.subset hi),
      List.prefix_rfl, hI, .inl rfl⟩
  -- everything is there, and what is left are the two statements on the version
  rw [← List.append_assoc, run_append_of_ok (run_creates hfits htables), hws]
  refine ⟨T, I, ?_⟩
  rcases List.prefix_cons_iff.1 hlast with rfl | ⟨note, rfl, hnote⟩
  · exact ⟨ws, rfl, List.prefix_rfl, List.prefix_rfl, .inl rfl⟩
  rcases List.prefix_cons_iff.1 hnote with rfl | ⟨_, rfl, hnil⟩
  · exact ⟨[], rfl, List.prefix_rfl, List.prefix_rfl, .inr (.inl rfl)⟩
  · obtain rfl := List.prefix_nil.1 hnil
    exact ⟨[v], rfl, List.prefix_rfl, List.prefix_rfl, .inr (.inr ⟨rfl, rfl, rfl⟩)⟩

/-! ## A store whose update is underway -/

/-- What holds of a store when an update starts, and at each of its statements. -/
structure Underway (s : Store) : Prop where
  /-- No index is missing that the rows do not fit. -/
  fits : s.Fits
  /-- What the noted version promises is there. -/
  noted : s.schema.versions = none ∨ s.schema.versions = some [] ∨
    s.schema.versions = some [1] ∧ s.Has Table.first Index.first ∨
    s.schema.versions = some [2] ∧ s.Has Table.all Index.all

/-- The store at the end of its update: all tables and indexes are there, and the present version
is noted. -/
def upgraded (s : Store) : Store := s.grow Table.all Index.all (some [2])

theorem upgraded_grow (hT : T <+: Table.all) (hI : I <+: Index.all) :
    (s.grow T I vs).upgraded = s.upgraded := by
  simp only [upgraded, grow, adding_of_prefix hT, adding_of_prefix hI]

/-- Where everything is there and noted, there is nothing left to do. -/
theorem Has.eq_upgraded (h : s.Has Table.all Index.all) (hnoted : s.schema.versions = some [2]) :
    s = s.upgraded := by
  rw [upgraded, Store.grow, adding_of_subset h.tables, adding_of_subset h.indexes, ← hnoted]

theorem first_tables : ∀ i ∈ Index.first, i.table ∈ Table.first := by decide

theorem second_tables : ∀ i ∈ Index.second, i.table ∈ Table.second := by decide

/-- From `s` an update leads to `cut`, which is underway too and will get to the same end. -/
structure Leads (s cut : Store) : Prop where
  underway : cut.Underway
  upgraded : cut.upgraded = s.upgraded

theorem Leads.trans {t u : Store} (h : s.Leads t) (h' : t.Leads u) : s.Leads u :=
  ⟨h'.underway, h'.upgraded.trans h.upgraded⟩

namespace Underway

/-- The second stage, cut anywhere after the first one is complete. -/
theorem cut_second (h : s.Underway) (hnoted : s.schema.versions = some [1])
    (hhas : s.Has Table.first Index.first) {pre : List Migration} (hpre : pre <+: second) :
    ∃ cut, s.run pre = .ok cut ∧ s.Leads cut := by
  obtain ⟨T, I, vs, hrun, hT, hI, hvs⟩ :=
    run_prefix_stage h.fits second_tables hnoted (second_eq ▸ hpre)
  refine ⟨_, hrun, ⟨h.fits.grow, ?_⟩, ?_⟩
  · rcases hvs with rfl | rfl | ⟨rfl, rfl, rfl⟩
    · exact .inr (.inr (.inl ⟨rfl, hhas.grow⟩))
    · exact .inr (.inl rfl)
    · exact .inr (.inr (.inr ⟨rfl, hhas.grow_append ▸ has_grow⟩))
  · rw [← hhas.grow_append]
    exact upgraded_grow ((List.prefix_append_right_inj _).2 hT)
      ((List.prefix_append_right_inj _).2 hI)

/-- The first stage, cut anywhere. -/
theorem cut_first (h : s.Underway) (hnoted : s.schema.versions = some [])
    {pre : List Migration} (hpre : pre <+: first) : ∃ cut, s.run pre = .ok cut ∧ s.Leads cut := by
  obtain ⟨T, I, vs, hrun, hT, hI, hvs⟩ :=
    run_prefix_stage h.fits first_tables hnoted (first_eq ▸ hpre)
  refine ⟨_, hrun, ⟨h.fits.grow, ?_⟩, ?_⟩
  · rcases hvs with rfl | rfl | ⟨rfl, rfl, rfl⟩
    · exact .inr (.inl rfl)
    · exact .inr (.inl rfl)
    · exact .inr (.inr (.inl ⟨rfl, has_grow⟩))
  · exact upgraded_grow (hT.trans (List.prefix_append _ _)) (hI.trans (List.prefix_append _ _))

/-- The statement at the start of every update leaves a table of versions. -/
theorem createVersions (h : s.Underway) :
    s.Leads (s.grow [] [] (some (s.schema.versions.getD []))) where
  underway.fits := h.fits.grow
  underway.noted := by
    rcases h.noted with h | h | ⟨h, hhas⟩ | ⟨h, hhas⟩ <;> rw [h]
    · exact .inr (.inl rfl)
    · exact .inr (.inl rfl)
    · exact .inr (.inr (.inl ⟨rfl, hhas.grow⟩))
    · exact .inr (.inr (.inr ⟨rfl, hhas.grow⟩))
  upgraded := upgraded_grow List.nil_prefix List.nil_prefix

/-- What is left to do, by the version that is noted. -/
theorem plan_cases (h : s.Underway) (hnoted : s.schema.versions ≠ none) :
    s.schema.versions = some [] ∧ plan s.schema.version = first ++ second ∨
    s.schema.versions = some [1] ∧ s.Has Table.first Index.first ∧
      plan s.schema.version = second ∨
    s.schema.versions = some [2] ∧ s.Has Table.all Index.all ∧ plan s.schema.version = [] := by
  rcases h.noted with hv | hv | ⟨hv, hhas⟩ | ⟨hv, hhas⟩
  · exact absurd hv hnoted
  · exact .inl ⟨hv, by rw [Schema.version, hv]; rfl⟩
  · exact .inr (.inl ⟨hv, hhas, by rw [Schema.version, hv]; rfl⟩)
  · exact .inr (.inr ⟨hv, hhas, by rw [Schema.version, hv]; rfl⟩)

/-- The first stage makes the second one possible. -/
theorem run_first (h : s.Underway) (hnoted : s.schema.versions ≠ none) :
    ∃ done, s.run first = .ok done ∧ s.Leads done ∧
      done.schema.versions = some [1] ∧ done.Has Table.first Index.first := by
  refine ⟨_, run_stage h.fits first_tables hnoted, ⟨⟨h.fits.grow, ?_⟩, ?_⟩, rfl, has_grow⟩
  · exact .inr (.inr (.inl ⟨rfl, has_grow⟩))
  · exact upgraded_grow (List.prefix_append _ _) (List.prefix_append _ _)

theorem run_second (h : s.Underway) (hnoted : s.schema.versions = some [1])
    (hhas : s.Has Table.first Index.first) : s.run second = .ok s.upgraded := by
  rw [second_eq, run_stage h.fits second_tables (by simp [hnoted]), ← hhas.grow_append]
  rfl

theorem run_plan (h : s.Underway) (hnoted : s.schema.versions ≠ none) :
    s.run (plan s.schema.version) = .ok s.upgraded := by
  rcases h.plan_cases hnoted with ⟨-, hplan⟩ | ⟨hone, hhas, hplan⟩ | ⟨htwo, hhas, hplan⟩ <;>
    rw [hplan]
  · obtain ⟨done, hrun, hleads, hone, hhas⟩ := h.run_first hnoted
    rw [run_append_of_ok hrun, hleads.underway.run_second hone hhas, hleads.upgraded]
  · exact h.run_second hone hhas
  · exact congrArg Except.ok (hhas.eq_upgraded htwo)

/-- The plan of an update, cut anywhere. -/
theorem cut_plan (h : s.Underway) (hnoted : s.schema.versions ≠ none) {pre : List Migration}
    (hpre : pre <+: plan s.schema.version) : ∃ cut, s.run pre = .ok cut ∧ s.Leads cut := by
  rcases h.plan_cases hnoted with ⟨hempty, hplan⟩ | ⟨hone, hhas, hplan⟩ | ⟨-, -, hplan⟩ <;>
    rw [hplan] at hpre
  · rcases prefix_append_cases hpre with hpre | ⟨rest, hrest, rfl⟩
    · exact h.cut_first hempty hpre
    · obtain ⟨done, hrun, hleads, hone, hhas⟩ := h.run_first hnoted
      obtain ⟨cut, hcut, hleads'⟩ := hleads.underway.cut_second hone hhas hrest
      exact ⟨cut, (run_append_of_ok hrun _).trans hcut, hleads.trans hleads'⟩
  · exact h.cut_second hone hhas hpre
  · obtain rfl := List.prefix_nil.1 hpre
    exact ⟨s, rfl, h, rfl⟩

/-- **An update of a store that is underway ends, and in one place.** -/
theorem run_updates (h : s.Underway) : s.run s.updates = .ok s.upgraded :=
  (h.createVersions.underway.run_plan (Option.some_ne_none _)).trans
    (congrArg _ h.createVersions.upgraded)

/-- **Wherever an update is cut short, it can be taken up again.** -/
theorem run_cut (h : s.Underway) {pre : List Migration} (hpre : pre <+: s.updates) :
    ∃ cut, s.run pre = .ok cut ∧ s.Leads cut := by
  rcases List.prefix_cons_iff.1 hpre with rfl | ⟨rest, rfl, hrest⟩
  · exact ⟨s, rfl, h, rfl⟩
  · obtain ⟨cut, hcut, hleads⟩ :=
      h.createVersions.underway.cut_plan (Option.some_ne_none _) hrest
    exact ⟨cut, hcut, h.createVersions.trans hleads⟩

theorem migrate_eq (h : s.Underway) : s.migrate = .ok s.upgraded := by
  have hversion : IsVersion s.schema.version := by
    rcases h.noted with hv | hv | ⟨hv, -⟩ | ⟨hv, -⟩ <;> rw [Schema.version, hv] <;> decide
  rw [migrate, if_pos hversion, h.run_updates]
  rfl

end Underway

/-! ## Starting an update -/

/-- A store as the first version left it, with whatever rows. -/
structure AtFirst (s : Store) : Prop where
  tables (t : Table) : t ∈ s.schema.tables ↔ t ∈ Table.first
  indexes (i : Index) : i ∈ s.schema.indexes ↔ i ∈ Index.first
  versions : s.schema.versions = some [1]

theorem underway_empty : empty.Underway where
  fits i := .inr (by cases i <;> rfl)
  noted := .inl rfl

theorem AtFirst.underway (h : s.AtFirst) : s.Underway where
  fits i := by
    -- the only index that rows may not fit is there
    cases i with
    | oneRetweet =>
      refine .inl ?_
      rw [Schema.hasIndex, List.contains_iff_mem, h.indexes]
      decide
    | _ => exact .inr rfl
  noted := .inr (.inr (.inl ⟨h.versions, fun t ↦ (h.tables t).2, fun i ↦ (h.indexes i).2⟩))

/-- A process that brings a store up to date may stop after any statement and leave the store as it
is then. -/
def CutShort (s cut : Store) : Prop := ∃ pre, pre <+: s.updates ∧ s.run pre = .ok cut

theorem Underway.leads_of_cutShort {cut : Store} (h : s.Underway) (hcut : s.CutShort cut) :
    s.Leads cut := by
  obtain ⟨pre, hpre, hrun⟩ := hcut
  obtain ⟨cut', hrun', hleads⟩ := h.run_cut hpre
  obtain rfl := Except.ok.inj (hrun.symm.trans hrun')
  exact hleads

theorem Underway.leads_of_cutsShort {cut : Store} (h : s.Underway)
    (hcut : Relation.ReflTransGen CutShort s cut) : s.Leads cut := by
  induction hcut with
  | refl => exact ⟨h, rfl⟩
  | tail _ hstep ih => exact ih.trans (ih.underway.leads_of_cutShort hstep)

/-- A store of the present version, or of a later one, is left as it is. -/
theorem run_of_two_le (h : 2 ≤ s.schema.version) {pre : List Migration}
    (hpre : pre <+: s.updates) : s.run pre = .ok s := by
  have hplan : plan s.schema.version = [] := by
    rw [plan, if_neg (by omega), if_neg (by omega), List.append_nil]
  rw [updates, hplan] at hpre
  rcases List.prefix_cons_iff.1 hpre with rfl | ⟨_, rfl, hnil⟩
  · rfl
  obtain rfl := List.prefix_nil.1 hnil
  obtain ⟨vs, hversions⟩ : ∃ vs, s.schema.versions = some vs := by
    refine Option.ne_none_iff_exists'.1 fun hnone ↦ ?_
    rw [Schema.version, hnone] at h
    exact absurd h (by decide)
  have hsame : some (s.schema.versions.getD []) = s.schema.versions := by rw [hversions]; rfl
  exact congrArg (fun vs ↦ Except.ok { s with schema.versions := vs }) hsame

/-- **An update can be cut short and taken up again, and keeps the rows.**  An update of a new store
or of one at the first version ends with all tables and indexes and with one noted version.  It may
stop after any of its statements, and so may the updates after it: the next one to reach its end
leaves the same store as if none had been cut short.  What is of the present version or of a later
one is not touched. -/
theorem migrate_restartable (s : Store) :
    (s = empty ∨ s.AtFirst → ∃ done, s.migrate = .ok done ∧
      (∀ t, t ∈ done.schema.tables) ∧ (∀ i, i ∈ done.schema.indexes) ∧
      done.schema.versions = some [2] ∧ done = { s with schema := done.schema } ∧
      (∀ pre, pre <+: s.updates → ∃ cut, s.run pre = .ok cut ∧ cut.migrate = .ok done) ∧
      (∀ cut, Relation.ReflTransGen CutShort s cut → cut.migrate = .ok done) ∧
      done.migrate = .ok done) ∧
    (2 ≤ s.schema.version → (∀ pre, pre <+: s.updates → s.run pre = .ok s) ∧
      (IsVersion s.schema.version → s.migrate = .ok s)) := by
  constructor
  · intro h
    have hs : s.Underway := h.elim (fun h ↦ h ▸ underway_empty) AtFirst.underway
    have hleads {cut : Store} (h : s.Leads cut) : cut.migrate = .ok s.upgraded := by
      rw [h.underway.migrate_eq, h.upgraded]
    have hdone : s.Leads s.upgraded :=
      hs.leads_of_cutShort ⟨s.updates, List.prefix_rfl, hs.run_updates⟩
    refine ⟨s.upgraded, hs.migrate_eq, fun t ↦ has_grow.tables t.mem_all,
      fun i ↦ has_grow.indexes i.mem_all, rfl, rfl, fun pre hpre ↦ ?_,
      fun cut hcut ↦ hleads (hs.leads_of_cutsShort hcut), hleads hdone⟩
    obtain ⟨cut, hcut, hcutLeads⟩ := hs.run_cut hpre
    exact ⟨cut, hcut, hleads hcutLeads⟩
  · intro h
    refine ⟨fun pre hpre ↦ run_of_two_le h hpre, fun hversion ↦ ?_⟩
    rw [migrate, if_pos hversion, run_of_two_le h List.prefix_rfl]
    rfl

/-- A store of the first version with one account. -/
def oneAccount : Store :=
  { empty with
    schema := ⟨Table.first, Index.first, some [1]⟩
    users := ⟨[⟨1, "ada", "ada@example.com", none, none, none, .int 0, .int 0,
      "2024-01-01 00:00:00", "2024-01-01 00:00:00"⟩], by decide⟩
    counters := ⟨1, 0, 0, 0⟩ }

/-- Cut after the old version is deleted and before the new one is noted, an update of
`oneAccount` leaves a store without a version.  The next update ends, keeps the account, and leaves
nothing to do. -/
theorem migrate_restartable_oneAccount :
    oneAccount.AtFirst ∧ ∃ cut done, oneAccount.run (oneAccount.updates.take 5) = .ok cut ∧
      cut.schema.versions = some [] ∧ cut.migrate = .ok done ∧ done.users = oneAccount.users ∧
      2 ≤ done.schema.version ∧ done.run done.updates = .ok done := by
  have hfirst : oneAccount.AtFirst := ⟨fun _ ↦ Iff.rfl, fun _ ↦ Iff.rfl, rfl⟩
  obtain ⟨done, -, -, -, hnoted, hrows, hcut, -, -⟩ :=
    (migrate_restartable oneAccount).1 (.inr hfirst)
  obtain ⟨cut, hrun, hagain⟩ := hcut _ (List.take_prefix 5 _)
  have hversion : 2 ≤ done.schema.version := by
    rw [Schema.version, hnoted]
    decide
  refine ⟨hfirst, cut, done, hrun, ?_, hagain, by rw [hrows], hversion,
    ((migrate_restartable done).2 hversion).1 _ List.prefix_rfl⟩
  obtain rfl := Except.ok.inj hrun
  rfl

end Store

end Microblog
