import ServiceContracts.CommandLine.Command
import ServiceContracts.Proofs.Boundary.Merge
import ServiceContracts.Proofs.Text.Utf8

/-!
# How loading ends

Loading a path gives a value, or the path is refused, as it is with every error of the system.
Besides, a few faults escape: a path may hold a null character or a surrogate that stands for no
byte, the bytes of a file may be no text, and the reader of a text has faults of its own.

* `StopsYaml`, `StopsJson`, `Escapes` : the faults that escape, and when;
* `Settles` : loading a path gives a value, or the path is refused, or just such a fault escapes;
* `settles_snapshot`, `settles_boundary`, `settles_manifest` : each kind of document;
* `boundaries_eq_error_iff`, `load_eq_error_iff` : the first of several that cannot be read decides;
* `loading_settles` : so does loading end, for single files and for the command line.
-/

namespace ServiceContracts.Source
open Document Text

/-! ## Faults that escape -/

/-- The faults of reading a YAML document other than that it is malformed. -/
inductive StopsYaml (cs : List Char) : Fault → Prop
  | yaml {f : Yaml.Fault} (hread : Yaml.read cs = .error f) (hf : f ≠ .malformed) :
    StopsYaml cs (.yaml f)

/-- The faults of reading a JSON text other than a complaint about it. -/
inductive StopsJson (cs : List Char) : Fault → Prop
  | overlong {o : Number.Overlong}
    (hread : Json.read (String.ofList (ofChars cs)) = .error (.overlong o)) :
    StopsJson cs (.overlong o)
  | tooDeep {n : Json.Nest}
    (hread : Json.read (String.ofList (ofChars cs)) = .error (.tooDeep n)) :
    StopsJson cs (.tooDeep n)

/-- The faults of loading that are no refusal of a path, given those of the reader. -/
inductive Escapes (stops : List Char → Fault → Prop) : Entry → Fault → Prop
  | embeddedNull : Escapes stops .embeddedNull .embeddedNull
  | unencodable : Escapes stops .unencodable .unencodable
  | undecodable {content : List UInt8} {f : Utf8.Fault} (hdecode : Utf8.decode content = .error f) :
    Escapes stops (.file content) (.undecodable f)
  | reader {content : List UInt8} {cs : List Char} {f : Fault}
    (hdecode : Utf8.decode content = .ok cs) (hstops : stops (Utf8.unifyLines cs) f) :
    Escapes stops (.file content) f

/-- How loading a path ends: with a value, with a refusal of the path, or with a fault that escapes,
and with each of these if there is one. -/
structure Settles {α : Type} (path : String) (escapes : Fault → Prop) (r : Except Fault α) :
    Prop where
  outcome : (∃ a, r = .ok a) ∨ (∃ reason, r = .error (.refused path reason)) ∨
    ∃ f, escapes f ∧ r = .error f
  error_of_escapes : ∀ f, escapes f → r = .error f

/-! ## Single files -/

section Files
variable {α β : Type} {path : String} {escapes : Fault → Prop} {r : Except Fault α}

theorem Settles.of_not_escapes (hnone : ∀ f, ¬ escapes f)
    (h : (∃ a, r = .ok a) ∨ ∃ reason, r = .error (.refused path reason)) :
    Settles path escapes r := by
  refine ⟨?_, fun f hf => absurd hf (hnone f)⟩
  obtain hvalue | hrefused := h
  · exact .inl hvalue
  · exact .inr (.inl hrefused)

theorem Settles.of_escapes {f : Fault} (hf : escapes f) (honly : ∀ f', escapes f' → f = f')
    (h : r = .error f) : Settles path escapes r :=
  ⟨.inr (.inr ⟨f, hf, h⟩), fun f' hf' => honly f' hf' ▸ h⟩

/-- What is checked of a value behind the reader adds refusals only. -/
theorem Settles.bind (h : Settles path escapes r) {check : α → Except Fault β}
    (hcheck : ∀ a, (∃ b, check a = .ok b) ∨ ∃ reason, check a = .error (.refused path reason)) :
    Settles path escapes (r >>= check) := by
  obtain ⟨houtcome, herror⟩ := h
  constructor
  · obtain ⟨a, rfl⟩ | ⟨reason, rfl⟩ | ⟨f, hf, rfl⟩ := houtcome
    · obtain hvalue | hrefused := hcheck a
      · exact .inl hvalue
      · exact .inr (.inl hrefused)
    · exact .inr (.inl ⟨reason, rfl⟩)
    · exact .inr (.inr ⟨f, hf, rfl⟩)
  · intro f hf
    rw [herror f hf]
    rfl

/-- A file is settled if any text in it is. -/
theorem Settles.file {stops : List Char → Fault → Prop} {read : List Char → Except Fault α}
    (h : ∀ cs, Settles path (stops cs) (read cs)) (e : Entry) :
    Settles path (Escapes stops e) (text path e >>= read) := by
  cases e with
  | directory => exact .of_not_escapes nofun (.inr ⟨.unopened .isDirectory, rfl⟩)
  | unreachable e | unopened e => exact .of_not_escapes nofun (.inr ⟨.unopened e, rfl⟩)
  | unread e => exact .of_not_escapes nofun (.inr ⟨.unread e, rfl⟩)
  | embeddedNull | unencodable =>
    refine .of_escapes (by constructor) (fun f hf => ?_) rfl
    cases hf
    rfl
  | file content =>
    rw [text]
    cases hdecode : Utf8.decode content with
    | error fault =>
      refine .of_escapes (.undecodable hdecode) (fun f hf => ?_) rfl
      cases hf with
      | undecodable hdecode' => rw [Except.error.inj (hdecode.symm.trans hdecode')]
      | reader hdecode' => cases hdecode.symm.trans hdecode'
    | ok cs =>
      obtain ⟨houtcome, herror⟩ := h (Utf8.unifyLines cs)
      constructor
      · obtain hvalue | hrefused | ⟨f, hstops, hf⟩ := houtcome
        · exact .inl hvalue
        · exact .inr (.inl hrefused)
        · exact .inr (.inr ⟨f, .reader hdecode hstops, hf⟩)
      · intro f hf
        cases hf with
        | undecodable hdecode' => cases hdecode.symm.trans hdecode'
        | reader hdecode' hstops =>
          obtain rfl := Except.ok.inj (hdecode.symm.trans hdecode')
          exact herror f hstops

theorem settles_document (path : String) (e : Entry) :
    Settles path (Escapes StopsYaml e) (document path e) := by
  refine .file (fun cs => ?_) e
  cases hread : Yaml.read cs with
  | error f =>
    have hsame : ∀ f', StopsYaml cs f' → .yaml f = f' := by
      rintro _ ⟨hread', -⟩
      rw [Except.error.inj (hread.symm.trans hread')]
    by_cases hf : f = .malformed
    · subst hf
      refine .of_not_escapes ?_ (.inr ⟨.malformed, rfl⟩)
      rintro _ ⟨hread', hne⟩
      exact hne (Except.error.inj (hread'.symm.trans hread))
    · refine .of_escapes (.yaml hread hf) hsame ?_
      cases f <;> first | rfl | exact absurd rfl hf
  | ok p =>
    refine .of_not_escapes ?_ ?_
    · rintro _ ⟨hread', -⟩
      cases hread.symm.trans hread'
    · dsimp only
      cases p.head <;> first | exact .inl ⟨_, rfl⟩ | exact .inr ⟨.notMapping, rfl⟩

theorem settles_snapshot (path : String) (e : Entry) :
    Settles path (Escapes StopsYaml e) (snapshot path e) := by
  refine (settles_document path e).bind fun p => ?_
  cases Snapshot.ofPart p with
  | ok s => exact .inl ⟨s, rfl⟩
  | faulty faults => exact .inr ⟨.snapshot faults, rfl⟩

theorem settles_boundary (path : String) (e : Entry) :
    Settles path (Escapes StopsYaml e) (boundary path e) := by
  refine (settles_document path e).bind fun p => ?_
  cases Boundary.ofPart p with
  | ok b => exact .inl ⟨b, rfl⟩
  | faulty faults => exact .inr ⟨.boundary faults.length, rfl⟩

theorem settles_manifest (path repo : String) (e : Entry) :
    Settles path (Escapes StopsJson e) (manifest path repo e) := by
  refine .file (fun cs => ?_) e
  cases hread : Json.read (String.ofList (ofChars cs)) with
  | error f =>
    have hsame : ∀ f', StopsJson cs f' →
        (∃ o, f = .overlong o ∧ f' = .overlong o) ∨ ∃ n, f = .tooDeep n ∧ f' = .tooDeep n := by
      rintro _ (hread' | hread')
      · exact .inl ⟨_, Except.error.inj (hread.symm.trans hread'), rfl⟩
      · exact .inr ⟨_, Except.error.inj (hread.symm.trans hread'), rfl⟩
    cases f with
    | overlong o => exact .of_escapes (.overlong hread) (by grind) rfl
    | tooDeep n => exact .of_escapes (.tooDeep hread) (by grind) rfl
    | complaint what line => exact .of_not_escapes (by grind) (.inr ⟨.json what line, rfl⟩)
  | ok v =>
    refine .of_not_escapes ?_ ?_
    · rintro _ (hread' | hread') <;> cases hread.symm.trans hread'
    · cases v <;> first | exact .inl ⟨_, rfl⟩ | exact .inr ⟨.notObject, rfl⟩

end Files

/-- A fault that escapes refuses no path. -/
theorem ne_refused_of_escapes {e : Entry} {f : Fault}
    (h : Escapes StopsYaml e f ∨ Escapes StopsJson e f) (path : String) (reason : Reason) :
    f ≠ .refused path reason := by
  obtain h | h := h
  · cases h with
    | embeddedNull | unencodable | undecodable => nofun
    | reader _ hstops =>
      cases hstops
      nofun
  · cases h with
    | embeddedNull | unencodable | undecodable => nofun
    | reader _ hstops => cases hstops <;> nofun

/-! ## Several files -/

section SeveralFiles
variable {files : String → Entry} {paths configs : List String} {f : Fault}

theorem boundaries_eq_error_iff : boundaries files paths = .error f ↔
    FirstFails (fun path => boundary path (files path)) paths f := by
  rw [Boundary.boundaries_eq_mapM, ← mapM_eq_error_iff]
  cases paths.mapM fun path => boundary path (files path) <;> simp [Except.map]

/-- The snapshot is read first, then the boundaries, then the manifests. -/
theorem load_eq_error_iff {path : String} {manifests : List (String × String)} :
    CommandLine.load files path configs manifests = .error f ↔
      snapshot (PathName.normal path) (files (PathName.normal path)) = .error f ∨
      (∃ s, snapshot (PathName.normal path) (files (PathName.normal path)) = .ok s) ∧
        (FirstFails (fun p => boundary p (files p)) (configs.map PathName.normal) f ∨
        (∃ b, boundaries files (configs.map PathName.normal) = .ok b) ∧
          FirstFails (fun m => manifest m.2 m.1 (files m.2)) manifests f) := by
  rw [← boundaries_eq_error_iff, ← mapM_eq_error_iff, CommandLine.load]
  simp only [bind_eq_error_iff, reduceCtorEq, and_false, exists_false, or_false,
    exists_and_right]

end SeveralFiles

/-- A refused path is told on the command line; it is not prepared for any other fault. -/
theorem crash_unloadable_eq_none_iff (f : Fault) :
    (CommandLine.unloadable f).crash = none ↔ ∃ path reason, f = .refused path reason := by
  cases f <;> simp [CommandLine.unloadable, CommandLine.failed, CommandLine.crashed]

/-- Loading a path gives a value, or the path is refused, unless a fault escapes, and such a fault
is no refusal. Of several files, the first that cannot be read decides, and so with the paths on the
command line, which tells of a refusal and of nothing else. Bytes are no text just if they are the
UTF-8 encoding of none. -/
theorem loading_settles (files : String → Entry) (path repo : String) (configs : List String)
    (manifests : List (String × String)) (content : List UInt8) (f : Fault) :
    Settles path (Escapes StopsYaml (files path)) (snapshot path (files path)) ∧
    Settles path (Escapes StopsYaml (files path)) (boundary path (files path)) ∧
    Settles path (Escapes StopsJson (files path)) (manifest path repo (files path)) ∧
    (Escapes StopsYaml (files path) f ∨ Escapes StopsJson (files path) f →
      ∀ p reason, f ≠ .refused p reason) ∧
    (boundaries files configs = .error f ↔
      FirstFails (fun p => boundary p (files p)) configs f) ∧
    (CommandLine.load files path configs manifests = .error f ↔
      snapshot (PathName.normal path) (files (PathName.normal path)) = .error f ∨
      (∃ s, snapshot (PathName.normal path) (files (PathName.normal path)) = .ok s) ∧
        (FirstFails (fun p => boundary p (files p)) (configs.map PathName.normal) f ∨
        (∃ b, boundaries files (configs.map PathName.normal) = .ok b) ∧
          FirstFails (fun m => manifest m.2 m.1 (files m.2)) manifests f)) ∧
    ((CommandLine.unloadable f).crash = none ↔ ∃ p reason, f = .refused p reason) ∧
    ((∃ fault, Utf8.decode content = .error fault) ↔ ∀ cs, content ≠ Utf8.encoding cs) :=
  ⟨settles_snapshot path _, settles_boundary path _, settles_manifest path repo _,
    ne_refused_of_escapes, boundaries_eq_error_iff, load_eq_error_iff,
    crash_unloadable_eq_none_iff f, Utf8.exists_decode_eq_error_iff⟩

/-- The fault of a byte that starts no character. -/
def startFault : Fault :=
  .undecodable { first := 0xff, position := 0, width := 1, cause := .start }

theorem loading_settles_start :
    Escapes StopsYaml (.file [0xff]) startFault ∧
    (∀ p reason, startFault ≠ .refused p reason) ∧
    snapshot "s.yaml" (.file [0xff]) = .error startFault ∧
    ¬ (CommandLine.unloadable startFault).crash = none := by
  have hescapes : Escapes StopsYaml (.file [0xff]) startFault := .undecodable rfl
  obtain ⟨hsnapshot, -, -, hne, -, -, hcrash, -⟩ :=
    loading_settles (fun _ => .file [0xff]) "s.yaml" "web" [] [] [0xff] startFault
  refine ⟨hescapes, hne (.inl hescapes), hsnapshot.error_of_escapes _ hescapes, ?_⟩
  rw [hcrash]
  rintro ⟨p, reason, h⟩
  exact hne (.inl hescapes) p reason h

/-- A byte that starts no character is not told as a refusal of its path, whatever is loaded. -/
theorem loaders_start :
    snapshot "s.yaml" (.file [0xff]) = .error startFault ∧
    boundary "c.yaml" (.file [0xff]) = .error startFault ∧
    manifest "package.json" "web" (.file [0xff]) = .error startFault ∧
    (CommandLine.unloadable startFault).crash = some (.loading startFault) :=
  ⟨rfl, rfl, rfl, rfl⟩

end ServiceContracts.Source
