import ApiDirectives.Proofs.Command.Agreement
import ApiDirectives.Proofs.Format.Yaml.Data
import ApiDirectives.Proofs.Text.Utf8

/-!
# Faulty configurations

A configuration that cannot be used is to be reported, whatever its file holds. `ConfigFault.isReported`
says which faults are; the others end a session as nothing provides for them. A file is read in three
stages, and each lets one kind of fault through: bytes that are no text, a scalar of the text that stands
for nothing, and settings whose names are no texts. `config_settled_iff` says that these are all.
-/

namespace ApiDirectives

open Yaml (Datum)

/-! ## Faults -/

/-- Whether a fault is one that a session reports. -/
def ConfigFault.isReported : ConfigFault → Bool
  | .unreadable .. | .notYaml .. | .noMapping _ | .invalid .. => true
  | .undecodable _ | .badScalar _ | .keysNotText => false

/-- How a fault ends a session. -/
def ConfigFault.stop (fault : ConfigFault) : Stop :=
  if fault.isReported then .failure fault.message else .crash (.config fault)

/-- Settings are loaded, or refused for a fault that is reported. -/
def Settled {α : Type} (x : Except ConfigFault α) : Prop :=
  (∃ a, x = .ok a) ∨ ∃ fault, x = .error fault ∧ fault.isReported = true

@[simp]
theorem settled_ok {α : Type} (a : α) : Settled (.ok a) := .inl ⟨a, rfl⟩

@[simp]
theorem settled_error {α : Type} {fault : ConfigFault} :
    Settled (.error fault : Except ConfigFault α) ↔ fault.isReported = true := by
  simp [Settled]

instance {α : Type} (x : Except ConfigFault α) : Decidable (Settled x) :=
  match x with
  | .ok a => .isTrue (settled_ok a)
  | .error _ => decidable_of_iff _ settled_error.symm

@[simp]
theorem settled_map {α β : Type} {x : Except ConfigFault α} {f : α → β} :
    Settled (x.map f) ↔ Settled x := by
  cases x with
  | ok a => simp [Except.map]
  | error fault => simp [Except.map]

/-! ## Stages -/

/-- Entries have names exactly if all keys are texts. -/
theorem textKeys_isSome_iff {entries : List (Datum × Datum)} :
    (textKeys? entries).isSome = true ↔ ∀ e ∈ entries, ∃ name, e.1 = .str name := by
  induction entries with
  | nil => simp [textKeys?]
  | cons e rest ih =>
    obtain ⟨key, d⟩ := e
    cases key with
    | str name => simp [textKeys?, ih]
    | _ => simp [textKeys?]

/-- A text whose settings are loaded or refused: no scalar of it is to blame, and if it is a table, its
keys are texts. -/
def HoldsSettings (text : List Char) : Prop :=
  (∀ fault, Yaml.read text ≠ .error (.unreadable fault)) ∧
    ∀ entries, Yaml.read text = .ok (.table entries) → ∀ e ∈ entries, ∃ name, e.1 = .str name

/-- Entries are loaded or refused for what they say exactly if their keys are texts. -/
theorem settled_entries_iff (path : FilePath) (entries : List (Datum × Datum)) :
    Settled (match textKeys? entries with
      | none => .error .keysNotText
      | some named =>
        match Config.ofEntries named with
        | .ok config => .ok config
        | .error faults => .error (.invalid path faults)) ↔
      ∀ e ∈ entries, ∃ name, e.1 = .str name := by
  rw [← textKeys_isSome_iff]
  cases textKeys? entries with
  | none => simp [ConfigFault.isReported]
  | some named =>
    refine iff_of_true ?_ rfl
    dsimp only
    split
    · exact settled_ok _
    · exact settled_error.mpr rfl

theorem settled_ofText_iff (path : FilePath) (text : List Char) :
    Settled (Config.ofText path text) ↔ HoldsSettings text := by
  unfold Config.ofText HoldsSettings
  rcases hread : Yaml.read text with (problem | fault) | d
  · simp [ConfigFault.isReported]
  · simp [ConfigFault.isReported]
  · simp only [ne_eq, reduceCtorEq, not_false_eq_true, implies_true, true_and, Except.ok.injEq]
    -- Nothing counts as a table without entries.
    by_cases hempty : d.isEmpty = true
    · rw [if_pos hempty]
      refine iff_of_true ((settled_entries_iff path []).mpr (by simp)) ?_
      rintro entries rfl e he
      simp only [Datum.isEmpty, List.isEmpty_iff] at hempty
      simp [hempty] at he
    · rw [if_neg hempty]
      cases d with
      | table entries =>
        simp only [Datum.table.injEq, forall_eq']
        exact settled_entries_iff path entries
      | _ => simp [ConfigFault.isReported]

instance (text : List Char) : Decidable (HoldsSettings text) :=
  decidable_of_iff _ (settled_ofText_iff {} text)

/-- Settings are loaded or refused exactly if the file cannot be read at all or is the encoding of a text
that holds settings. -/
theorem Files.settled_loadConfig_iff (f : Files) (path : FilePath) :
    Settled (f.loadConfig path) ↔ ∀ bytes, f.read path = .ok bytes →
      ∃ text : String, bytes = Text.encodeUtf8 text ∧ HoldsSettings (withLineFeeds text.toList) := by
  unfold Files.loadConfig
  cases hbytes : f.read path with
  | error fault => simp [ConfigFault.isReported]
  | ok bytes =>
    simp only [Except.ok.injEq, forall_eq']
    cases htext : Text.decodeUtf8 bytes with
    | error fault =>
      refine iff_of_false (by simp [ConfigFault.isReported]) ?_
      rintro ⟨text, rfl, -⟩
      rw [Text.decodeUtf8_encodeUtf8] at htext
      cases htext
    | ok cs =>
      simp only [settled_map, settled_ofText_iff]
      constructor
      · intro hholds
        exact ⟨String.ofList cs, Text.decodeUtf8_eq_ok_iff.mp htext, by rwa [String.toList_ofList]⟩
      · rintro ⟨text, rfl, hholds⟩
        rw [Text.decodeUtf8_encodeUtf8] at htext
        cases htext
        exact hholds

/-! ## Sessions -/

/-- Where the configuration of a session is. -/
def Request.configPath? (r : Request) (files : Files) : Option FilePath :=
  r.config.or (files.findConfig (r.operand.getD files.working))

/-- A session takes the defaults if there is no file, and else what is loaded or the end that its
fault is. -/
theorem Session.run_config (r : Request) (k : Console) :
    (Session.config r).run.run k =
      ((r.configPath? k.files).elim (.ok {}) fun path =>
        (k.files.loadConfig path).mapError ConfigFault.stop, k) := by
  have hget : (get : Session Console).run.run k = (.ok k, k) := rfl
  unfold Session.config
  rw [run_bind_of_ok hget]
  dsimp only
  split
  · rename_i hnone
    have hpath : r.configPath? k.files = none := by
      revert hnone
      rw [Request.configPath?]
      cases r.config <;> exact id
    rw [hpath]
    rfl
  · rename_i path hsome
    have hpath : r.configPath? k.files = some path := by
      revert hsome
      rw [Request.configPath?]
      cases r.config <;> exact id
    rw [hpath, Option.elim_some]
    rcases k.files.loadConfig path with fault | config
    · cases fault <;> rfl
    · rfl

/-- A session that finds a file crashes over it exactly if its settings are neither loaded nor refused. -/
theorem Session.config_crashes_iff {r : Request} {k : Console} {path : FilePath}
    (h : r.configPath? k.files = some path) :
    (∃ cause, ((Session.config r).run.run k).1 = .error (.crash cause)) ↔
      ¬ Settled (k.files.loadConfig path) := by
  rw [Session.run_config, h, Option.elim_some]
  cases k.files.loadConfig path with
  | ok config => simp [Except.mapError]
  | error fault =>
    rw [settled_error, Except.mapError, ConfigFault.stop]
    by_cases hreported : fault.isReported = true
    · simp [hreported]
    · simp [hreported]

/-- A directory with a configuration file. -/
def filesWithConfig (bytes : List UInt8) : Files :=
  { top := .directory [(".bangspec.yml", .file bytes)] }

/-- The configuration file of a directory. -/
def configFile : FilePath := { parts := [".bangspec.yml"] }

theorem read_filesWithConfig (bytes : List UInt8) :
    (filesWithConfig bytes).read configFile = .ok bytes := rfl

/-- What is no YAML and what is no table is reported. -/
example : Settled ((filesWithConfig (Text.encodeUtf8 "[")).loadConfig configFile) ∧
    Settled ((filesWithConfig (Text.encodeUtf8 "- a\n")).loadConfig configFile) := by
  decide +kernel

end ApiDirectives
