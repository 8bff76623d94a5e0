import SpriteStage.Proofs.DistinctNames
import SpriteStage.Scene.Load
import SpriteStage.Scene.Settings
/-!
Two readers of one source. The scene and the configuration are both records that take up a whole
document, of which each knows a single field: they are read entry by entry, in the order of the document,
and what they do not know they pass over. No name is there twice, so each of them comes to what its one
entry gives, whatever else the document holds and wherever that stands. Whether there is a document at
all is settled before, by a parser that both share; any parser will do here.
-/

namespace SpriteStage

namespace Toml

namespace Record

def single {α : Type} (name field : String) (absent : α) (d : Decoder α) : Record α α where
  name := name
  fields := [.of field d (fun v _ => v) true]
  start := absent
  finish := .ok

variable {α : Type} {absent draft : α} {d : Decoder α} {name field : String} {key : Key} {v : Value}
  {entries : List (Key × Value)}

theorem entry_single_of_name (h : key.name = field) :
    (single name field absent d).entry draft key v = d (v.span?.getD key.span) v := by
  have hfield : ((single name field absent d).fields.find? fun f => f.name = key.name) =
      some (.of field d (fun v _ => v) true) :=
    List.find?_cons_of_pos (decide_eq_true h.symm)
  rw [entry, hfield]
  cases hv : d (v.span?.getD key.span) v <;> simp [Field.of, hv, Except.map]

theorem entry_single_of_stranger (h : key.name ≠ field) :
    (single name field absent d).entry draft key v = .ok draft := by
  have hfield : ((single name field absent d).fields.find? fun f => f.name = key.name) = none :=
    List.find?_cons_of_neg fun hname => h (of_decide_eq_true hname).symm
  rw [entry, hfield]
  rfl

theorem foldlM_single_of_absent (h : field ∉ entries.map fun entry => entry.1.name) :
    entries.foldlM (fun draft (key, v) => (single name field absent d).entry draft key v) draft =
      .ok draft := by
  induction entries with
  | nil => rfl
  | cons entry entries ih =>
    obtain ⟨key, v⟩ := entry
    rw [List.map_cons, List.mem_cons, not_or] at h
    rw [List.foldlM_cons]
    dsimp only
    rw [entry_single_of_stranger (Ne.symm h.1)]
    exact ih h.2

theorem foldlM_single (distinct : (entries.map fun entry => entry.1.name).Nodup) :
    entries.foldlM (fun draft (key, v) => (single name field absent d).entry draft key v) absent =
      match entries.find? fun (key, _) => key.name = field with
      | some (key, v) => d (v.span?.getD key.span) v
      | none => .ok absent := by
  induction entries with
  | nil => rfl
  | cons entry entries ih =>
    obtain ⟨key, v⟩ := entry
    rw [List.map_cons, List.nodup_cons] at distinct
    rw [List.foldlM_cons]
    dsimp only
    by_cases hkey : key.name = field
    · have hrest : field ∉ entries.map fun entry => entry.1.name := hkey ▸ distinct.1
      rw [entry_single_of_name hkey, List.find?_cons_of_pos (by simpa using hkey)]
      cases hv : d (v.span?.getD key.span) v with
      | error fault => simp [hv, bind, Except.bind]
      | ok value =>
        simp only [hv]
        exact foldlM_single_of_absent hrest
    · rw [entry_single_of_stranger hkey, List.find?_cons_of_neg (by simpa using hkey)]
      exact ih distinct.2

theorem decoder_single {document : Document} (distinct : document.root.Distinct) (place : Span) :
    (single name field absent d).decoder place document.root.toValue =
      document.top field absent d := by
  have hdraft : (single name field absent d).draft place document.root.toValue =
      document.top field absent d := foldlM_single distinct
  rw [decoder, hdraft]
  cases document.top field absent d <;> rfl

end Record

/-- The value of an entry at the top of a document, and the place that is blamed for it: its own, or that
of its key if it has none. -/
def Document.placed? (d : Document) (name : String) : Option (Span × Value) :=
  (d.entry? name).map fun (key, v) => (v.span?.getD key.span, v)

theorem Document.top_eq_placed? {α : Type} (document : Document) (name : String) (absent : α)
    (d : Decoder α) :
    document.top name absent d =
      match document.placed? name with
      | some (place, v) => d place v
      | none => .ok absent := by
  rw [Document.top, Document.placed?]
  cases document.entry? name <;> rfl

structure Complaint where
  message : String
  span : Option Span

/-- Any parser of documents. It reads a text as a whole or complains of it, and lets no name be defined
twice at the top. -/
structure Parser where
  read : String → Except Complaint Document
  distinct {source : String} {d : Document} : read source = .ok d → d.root.Distinct

namespace Parser

def plain : Parser where
  read source :=
    match Document.read? source with
    | some d => .ok d
    | none => .error ⟨Cause.notADocument.message, none⟩
  distinct {source d} h := by
    cases hread : Document.read? source with
    | none => rw [hread] at h; cases h
    | some read =>
      rw [hread] at h
      obtain rfl : read = d := Except.ok.inj h
      exact Document.distinct_read? hread

theorem read_plain_of_some {source : String} {d : Document} (h : Document.read? source = some d) :
    plain.read source = .ok d := by
  simp [plain, h]

theorem read_plain_of_none {source : String} (h : Document.read? source = none) :
    plain.read source = .error ⟨Cause.notADocument.message, none⟩ := by
  simp [plain, h]

def load {σ α : Type} (p : Parser) (r : Record σ α) (source : String) :
    Except (Complaint ⊕ Fault) α :=
  match p.read source with
  | .error complaint => .error (.inl complaint)
  | .ok d => (r.decoder ⟨0, 0⟩ d.root.toValue).mapError .inr

variable {σ α : Type} {p : Parser} {r : Record σ α} {source : String} {complaint : Complaint}
  {d : Document}

theorem load_of_read (h : p.read source = .ok d) :
    p.load r source = (r.decoder ⟨0, 0⟩ d.root.toValue).mapError .inr := by
  rw [load, h]

theorem load_eq_complaint_iff :
    p.load r source = .error (.inl complaint) ↔ p.read source = .error complaint := by
  cases hread : p.read source with
  | error other =>
    rw [load, hread]
    simp
  | ok d =>
    rw [load_of_read hread]
    cases r.decoder ⟨0, 0⟩ d.root.toValue <;> simp [Except.mapError]

theorem load_single (h : p.read source = .ok d) (name field : String) (absent : α)
    (decoder : Decoder α) :
    p.load (.single name field absent decoder) source =
      (d.top field absent decoder).mapError .inr := by
  rw [load_of_read h, Record.decoder_single (p.distinct h)]

def report (file : Nat) (result : Except (Complaint ⊕ Fault) α) :
    Except (Complaint ⊕ Finding) α :=
  result.mapError (Sum.map id (Finding.ofFault file))

theorem report_eq_complaint_iff {file : Nat} {result : Except (Complaint ⊕ Fault) α} :
    report file result = .error (.inl complaint) ↔ result = .error (.inl complaint) := by
  rcases result with (other | fault) | value <;> simp [report, Except.mapError]

end Parser

end Toml

open Toml (Parser)

def Scene.document : Toml.Record (List SpriteEntry) (List SpriteEntry) :=
  .single "RawScene" "sprite" [] SpriteEntry.record.decoder.listOf

def Config.document : Toml.Record Config Config :=
  .single "SceneDocument" "engine" {} record.decoder

def Scene.loadWith (p : Parser) (source : String) (file : Nat) :
    Except (Toml.Complaint ⊕ Finding) Scene :=
  (Parser.report file (p.load document source)).map (ofEntries file)

def Config.loadWith (p : Parser) (source : String) (file : Nat) :
    Except (Toml.Complaint ⊕ Finding) Config :=
  Parser.report file (p.load document source)

def Finding.ofComplaint (file : Nat) : Toml.Complaint ⊕ Finding → Finding
  | .inl _ => .notADocument file
  | .inr f => f

variable {p : Parser} {source : String} {d : Toml.Document}

theorem Scene.loadWith_of_read (h : p.read source = .ok d) (file : Nat) :
    loadWith p source file =
      ((entriesOf d).mapError fun fault => .inr (.ofFault file fault)).map (ofEntries file) := by
  rw [loadWith, document, Parser.load_single h, entriesOf]
  cases d.top "sprite" [] SpriteEntry.record.decoder.listOf <;> rfl

theorem Config.loadWith_of_read (h : p.read source = .ok d) (file : Nat) :
    loadWith p source file = (ofDocument d).mapError fun fault => .inr (.ofFault file fault) := by
  rw [loadWith, document, Parser.load_single h, ofDocument]
  cases d.top "engine" {} record.decoder <;> rfl

theorem Scene.loadWith_eq_complaint_iff {file : Nat} {complaint : Toml.Complaint} :
    loadWith p source file = .error (.inl complaint) ↔ p.read source = .error complaint := by
  have hreport : Parser.report file (p.load document source) = .error (.inl complaint) ↔
      p.read source = .error complaint :=
    Parser.report_eq_complaint_iff.trans Parser.load_eq_complaint_iff
  rw [← hreport, loadWith]
  cases Parser.report file (p.load document source) <;> simp [Except.map]

theorem Config.loadWith_eq_complaint_iff {file : Nat} {complaint : Toml.Complaint} :
    loadWith p source file = .error (.inl complaint) ↔ p.read source = .error complaint := by
  rw [loadWith, Parser.report_eq_complaint_iff, Parser.load_eq_complaint_iff]

theorem loadFrom_of_read {α : Type} (h : Toml.Document.read? source = some d) (file : Nat)
    (content : Toml.Document → Except Toml.Fault α) :
    loadFrom source file content = (content d).mapError (.ofFault file) := by
  rw [loadFrom, h]

theorem loadFrom_of_no_document {α : Type} (h : Toml.Document.read? source = none) (file : Nat)
    (content : Toml.Document → Except Toml.Fault α) :
    loadFrom source file content = .error (.notADocument file) := by
  rw [loadFrom, h]

theorem Scene.load_eq_loadWith_plain (source : String) (file : Nat) :
    load source file = (loadWith .plain source file).mapError (Finding.ofComplaint file) := by
  cases hread : Toml.Document.read? source with
  | none =>
    rw [loadWith_eq_complaint_iff.2 (Parser.read_plain_of_none hread), load,
      loadFrom_of_no_document hread]
    rfl
  | some d =>
    rw [loadWith_of_read (Parser.read_plain_of_some hread), load, loadFrom_of_read hread]
    cases entriesOf d <;> rfl

theorem Config.load_eq_loadWith_plain (source : String) (file : Nat) :
    load source file = (loadWith .plain source file).mapError (Finding.ofComplaint file) := by
  cases hread : Toml.Document.read? source with
  | none =>
    rw [loadWith_eq_complaint_iff.2 (Parser.read_plain_of_none hread), load,
      loadFrom_of_no_document hread]
    rfl
  | some d =>
    rw [loadWith_of_read (Parser.read_plain_of_some hread), load, loadFrom_of_read hread]
    cases ofDocument d <;> rfl

/-- The loaders of scenes and of configurations refuse the same texts as no documents, with the same
complaint. Of a document each of them looks at one entry only: two documents in which that entry has the
same value at the same place come to the same, be it a fault or not, whatever else is in them and however
wrong that is. With the parser of this library these are its loaders. -/
theorem Toml.Parser.loaders_apart (p : Toml.Parser) (file : Nat) :
    (∀ source complaint,
      Scene.loadWith p source file = .error (.inl complaint) ↔
        Config.loadWith p source file = .error (.inl complaint)) ∧
      (∀ source other d e, p.read source = .ok d → p.read other = .ok e →
        (d.placed? "sprite" = e.placed? "sprite" →
          Scene.loadWith p source file = Scene.loadWith p other file) ∧
        (d.placed? "engine" = e.placed? "engine" →
          Config.loadWith p source file = Config.loadWith p other file)) ∧
      ∀ source,
        Scene.load source file =
          (Scene.loadWith .plain source file).mapError (Finding.ofComplaint file) ∧
        Config.load source file =
          (Config.loadWith .plain source file).mapError (Finding.ofComplaint file) := by
  refine ⟨fun source complaint => ?_, fun source other d e hd he => ⟨fun hsame => ?_, fun hsame => ?_⟩,
    fun source => ⟨Scene.load_eq_loadWith_plain source file, Config.load_eq_loadWith_plain source file⟩⟩
  · rw [Scene.loadWith_eq_complaint_iff, Config.loadWith_eq_complaint_iff]
  · have hentries : Scene.entriesOf d = Scene.entriesOf e := by
      rw [Scene.entriesOf, Scene.entriesOf, Toml.Document.top_eq_placed?, hsame,
        ← Toml.Document.top_eq_placed?]
    rw [Scene.loadWith_of_read hd, Scene.loadWith_of_read he, hentries]
  · have hconfig : Config.ofDocument d = Config.ofDocument e := by
      rw [Config.ofDocument, Config.ofDocument, Toml.Document.top_eq_placed?, hsame,
        ← Toml.Document.top_eq_placed?]
    rw [Config.loadWith_of_read hd, Config.loadWith_of_read he, hconfig]

theorem Toml.Parser.loaders_apart_faulty :
    let first := "engine = 5\n[[sprite]]\nx = true\n"
    let second := "[engine]\n#\n[[sprite]]\nx = true\n"
    let third := "engine = 5\n[[spirit]]\nx = true\n"
    ∃ d e f, plain.read first = .ok d ∧ plain.read second = .ok e ∧ plain.read third = .ok f ∧
      d.placed? "sprite" = e.placed? "sprite" ∧ d.placed? "engine" = f.placed? "engine" ∧
      Scene.loadWith .plain first 0 = Scene.loadWith .plain second 0 ∧
      Config.loadWith .plain first 0 = Config.loadWith .plain third 0 := by
  intro first second third
  obtain ⟨d, hd⟩ : ∃ d, Document.read? first = some d :=
    Option.isSome_iff_exists.1 (by decide +kernel)
  obtain ⟨e, he⟩ : ∃ e, Document.read? second = some e :=
    Option.isSome_iff_exists.1 (by decide +kernel)
  obtain ⟨f, hf⟩ : ∃ f, Document.read? third = some f :=
    Option.isSome_iff_exists.1 (by decide +kernel)
  have hsprite : ((Document.read? first).bind fun d => d.placed? "sprite") =
      (Document.read? second).bind fun d => d.placed? "sprite" := by decide +kernel
  have hengine : ((Document.read? first).bind fun d => d.placed? "engine") =
      (Document.read? third).bind fun d => d.placed? "engine" := by decide +kernel
  rw [hd, he] at hsprite
  rw [hd, hf] at hengine
  obtain ⟨-, hsame, -⟩ := plain.loaders_apart 0
  have hfirst := read_plain_of_some hd
  have hsecond := read_plain_of_some he
  have hthird := read_plain_of_some hf
  exact ⟨d, e, f, hfirst, hsecond, hthird, hsprite, hengine,
    (hsame first second d e hfirst hsecond).1 hsprite,
    (hsame first third d f hfirst hthird).2 hengine⟩

end SpriteStage
