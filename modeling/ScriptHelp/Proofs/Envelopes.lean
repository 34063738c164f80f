import ScriptHelp.Proofs.Messages
import ScriptHelp.Proofs.ToolAnswers

namespace ScriptHelp

namespace Json

/-- An object with a null field at some depth. A null in a list is no field. -/
inductive HasNullField : Json → Prop
  | here {fs : List (String × Json)} {k : String} (h : (k, .null) ∈ fs) : HasNullField (.obj fs)
  | inField {fs : List (String × Json)} {k : String} {j : Json} (h : (k, j) ∈ fs)
    (hj : HasNullField j) : HasNullField (.obj fs)
  | inItem {js : List Json} {j : Json} (h : j ∈ js) (hj : HasNullField j) : HasNullField (.arr js)

def isNull : Json → Bool
  | .null => true
  | _ => false

/-- The object without its own null fields; nested values are unchanged. -/
def withoutNulls : Json → Json
  | .obj fs => .obj (fs.filter fun f => !f.2.isNull)
  | j => j

variable {fs : List (String × Json)} {j : Json}

theorem isNull_iff : j.isNull = true ↔ j = .null := by
  cases j <;> simp [isNull]

theorem not_hasNullField_null : ¬ HasNullField .null := nofun

theorem not_hasNullField_str (t : String) : ¬ HasNullField (.str t) := nofun

theorem hasNullField_obj_iff :
    HasNullField (.obj fs) ↔ ∃ f ∈ fs, f.2 = .null ∨ HasNullField f.2 := by
  constructor
  · intro h
    cases h with
    | here h => exact ⟨_, h, .inl rfl⟩
    | inField h hj => exact ⟨_, h, .inr hj⟩
  · rintro ⟨⟨k, j⟩, hf, rfl | hj⟩
    · exact .here hf
    · exact .inField hf hj

theorem hasNullField_withoutNulls_iff :
    HasNullField (withoutNulls (.obj fs)) ↔ ∃ f ∈ fs, HasNullField f.2 := by
  rw [withoutNulls, hasNullField_obj_iff]
  constructor
  · rintro ⟨f, hf, hnull | hj⟩
    · obtain ⟨-, hnot⟩ := List.mem_filter.mp hf
      simp [hnull, isNull] at hnot
    · exact ⟨f, (List.mem_filter.mp hf).1, hj⟩
  · rintro ⟨f, hf, hj⟩
    refine ⟨f, List.mem_filter.mpr ⟨hf, ?_⟩, .inr hj⟩
    by_contra hnot
    have hnull : f.2 = .null := isNull_iff.mp (by simpa using hnot)
    exact not_hasNullField_null (hnull ▸ hj)

def given (fs : List (String × Json)) (k : String) : Json := (fs.lookup k).getD .null

end Json

namespace Checked

variable {α β : Type} {read : Json → Checked α} {fs : List (String × Json)} {k : String} {j : Json}

theorem both_eq_ok_iff {x : Checked α} {y : Checked β} {a : α} {b : β} :
    both x y = .ok (a, b) ↔ x = .ok a ∧ y = .ok b := by
  refine ⟨both_eq_ok, ?_⟩
  rintro ⟨rfl, rfl⟩
  rfl

theorem required_eq_ok_iff {a : α} :
    required read fs k = .ok a ↔ ∃ j, fs.lookup k = some j ∧ read j = .ok a := by
  rw [required, inside_eq_ok_iff]
  cases fs.lookup k with
  | none => simp [fault]
  | some j => simp

theorem allowed_eq_ok_iff {a : α} : allowed read fs k = .ok a ↔ read (Json.given fs k) = .ok a :=
  inside_eq_ok_iff

theorem string_eq_ok_iff {s : String} : string j = .ok s ↔ j = .str s := by
  cases j <;> simp [string, fault]

theorem orNull_of_ne_null (h : j ≠ .null) : orNull read j = (read j).map some := by
  cases j with
  | null => contradiction
  | _ => rfl

theorem orNull_fields_eq_ok_iff {d : Option (List (String × Json))} :
    orNull fields j = .ok d ↔ j = (d.map .obj).getD .null := by
  cases j <;> cases d <;> simp [orNull, fields, fault, Except.map]

end Checked

namespace Failure

variable {f : Failure} {es : List (String × Json)} {j : Json}

/-- The fields of an error; only the details may be missing or null. -/
structure Says (f : Failure) (es : List (String × Json)) : Prop where
  code : es.lookup "code" = some (.str f.code)
  message : es.lookup "message" = some (.str f.message)
  details : Json.given es "details" = f.detailsJson

theorem read_eq_ok_iff : read es = .ok f ↔ f.Says es := by
  have hstring : ∀ {k s}, Checked.required .string es k = .ok s ↔ es.lookup k = some (.str s) := by
    intro k s
    simp [Checked.required_eq_ok_iff, Checked.string_eq_ok_iff]
  constructor
  · intro h
    obtain ⟨⟨c, m, d⟩, hboth, rfl⟩ := map_eq_ok h
    rw [Checked.both_eq_ok_iff, Checked.both_eq_ok_iff] at hboth
    obtain ⟨hcode, hmessage, hdetails⟩ := hboth
    exact ⟨hstring.mp hcode, hstring.mp hmessage,
      Checked.orNull_fields_eq_ok_iff.mp (Checked.allowed_eq_ok_iff.mp hdetails)⟩
  · intro h
    have hdetails : Checked.allowed (.orNull .fields) es "details" = .ok f.details :=
      Checked.allowed_eq_ok_iff.mpr (Checked.orNull_fields_eq_ok_iff.mpr h.details)
    rw [read, hstring.mpr h.code, hstring.mpr h.message, hdetails]
    rfl

theorem readValue_eq_ok_iff : readValue j = .ok f ↔ ∃ es, j = .obj es ∧ f.Says es := by
  cases j with
  | obj es => simp [readValue, read_eq_ok_iff]
  | _ => simp [readValue, Checked.fault]

/-- An error given by its fields, or none by null. -/
inductive Told : Option Failure → Json → Prop
  | none : Told none .null
  | some {f : Failure} {es : List (String × Json)} (h : f.Says es) : Told (some f) (.obj es)

theorem orNull_readValue_eq_ok_iff {o : Option Failure} :
    Checked.orNull readValue j = .ok o ↔ Told o j := by
  constructor
  · intro h
    by_cases hnull : j = .null
    · subst hnull
      obtain rfl := Except.ok.inj h
      exact .none
    · rw [Checked.orNull_of_ne_null hnull] at h
      obtain ⟨f, hf, rfl⟩ := map_eq_ok h
      obtain ⟨es, rfl, hsays⟩ := readValue_eq_ok_iff.mp hf
      exact .some hsays
  · intro h
    cases h with
    | none => rfl
    | @some f es h =>
      have hne : Json.obj es ≠ .null := nofun
      rw [Checked.orNull_of_ne_null hne, readValue_eq_ok_iff.mpr ⟨es, rfl, h⟩]
      rfl

end Failure

namespace HelpData

theorem toJson_eq (d : HelpData) : d.toJson = Json.withoutNulls (.obj d.parts) := by
  obtain ⟨action, reply, entries, summary⟩ := d
  cases reply <;> rfl

theorem hasNullField_toJson_iff {d : HelpData} :
    d.toJson.HasNullField ↔ (Json.obj d.summary).HasNullField := by
  have hreply : ¬ d.replyJson.HasNullField := by
    rw [replyJson]
    cases d.reply with
    | none => exact Json.not_hasNullField_null
    | some t => exact Json.not_hasNullField_str t
  have hentries : ¬ (Json.ofStrings d.entries).HasNullField := by
    rintro (_ | _ | ⟨hmem, hj⟩)
    obtain ⟨t, -, rfl⟩ := List.mem_map.mp hmem
    exact Json.not_hasNullField_str t hj
  rw [toJson_eq, Json.hasNullField_withoutNulls_iff]
  simp [parts, Json.not_hasNullField_str, hreply, hentries]

end HelpData

namespace Envelope

variable {fs : List (String × Json)} {e : Envelope}

def okay : Envelope → Bool
  | .success _ => true
  | .failure .. => false

def data : Envelope → Json
  | .success data => data
  | .failure data _ => data

def error? : Envelope → Option Failure
  | .success _ => none
  | .failure _ error => some error

structure Says (e : Envelope) (fs : List (String × Json)) : Prop where
  ok : ∃ j, fs.lookup "ok" = some j ∧ Checked.boolean j = .ok e.okay
  data : Json.given fs "data" = e.data
  error : Failure.Told e.error? (Json.given fs "error")

theorem ofParts_eq_ok_iff {ok : Bool} {j : Json} {error : Option Failure} :
    ofParts ok j error = .ok e ↔ ok = e.okay ∧ j = e.data ∧ error = e.error? := by
  cases e <;> cases ok <;> cases error <;>
    simp [ofParts, okay, data, error?, Checked.fault]

theorem read_eq_ok_iff : read fs = .ok e ↔ e.Says fs := by
  constructor
  · intro h
    cases hboth : (Checked.required .boolean fs "ok").both
        (Checked.allowed (.orNull Failure.readValue) fs "error") with
    | error ps =>
      rw [read, hboth] at h
      cases h
    | ok p =>
      obtain ⟨ok, error⟩ := p
      rw [read, hboth] at h
      obtain ⟨rfl, hdata, rfl⟩ := ofParts_eq_ok_iff.mp h
      obtain ⟨hok, herror⟩ := Checked.both_eq_ok_iff.mp hboth
      exact ⟨Checked.required_eq_ok_iff.mp hok, hdata,
        Failure.orNull_readValue_eq_ok_iff.mp (Checked.allowed_eq_ok_iff.mp herror)⟩
  · intro h
    have hboth := Checked.both_eq_ok_iff.mpr ⟨Checked.required_eq_ok_iff.mpr h.ok,
      Checked.allowed_eq_ok_iff.mpr (Failure.orNull_readValue_eq_ok_iff.mpr h.error)⟩
    rw [read, hboth]
    exact ofParts_eq_ok_iff.mpr ⟨rfl, h.data, rfl⟩

def errorJson (e : Envelope) : Json := (e.error?.map Failure.full).getD .null

theorem full_eq (e : Envelope) :
    e.full = .obj [("ok", .bool e.okay), ("data", e.data), ("error", e.errorJson)] := by
  cases e <;> rfl

theorem compact_eq (e : Envelope) : e.compact = Json.withoutNulls
    (.obj [("ok", .bool e.okay), ("data", e.data), ("error", e.errorJson.withoutNulls)]) := by
  cases e with
  | success data => cases data <;> rfl
  | failure data error =>
    obtain ⟨code, message, details⟩ := error
    cases data <;> cases details <;> rfl

theorem hasNullField_errorJson_iff : e.errorJson.withoutNulls.HasNullField ↔
    ∃ f ∈ e.error?, f.detailsJson.HasNullField := by
  cases e with
  | success data =>
    refine iff_of_false Json.not_hasNullField_null ?_
    rintro ⟨f, hf, -⟩
    cases hf
  | failure data error =>
    change (Json.withoutNulls (.obj _)).HasNullField ↔ _
    rw [Json.hasNullField_withoutNulls_iff]
    simp [error?, Json.not_hasNullField_str]

theorem hasNullField_compact_iff : e.compact.HasNullField ↔
    e.data.HasNullField ∨ ∃ f ∈ e.error?, f.detailsJson.HasNullField := by
  have hok : ¬ (Json.bool e.okay).HasNullField := nofun
  rw [compact_eq, Json.hasNullField_withoutNulls_iff, ← hasNullField_errorJson_iff]
  simp [hok]

theorem read_compact (e : Envelope) : ∃ gs, e.compact = .obj gs ∧ read gs = .ok e := by
  cases e with
  | success data => exact ⟨_, rfl, by cases data <;> rfl⟩
  | failure data error =>
    obtain ⟨code, message, details⟩ := error
    exact ⟨_, rfl, by cases data <;> cases details <;> rfl⟩

/-- An envelope is coherent, and its compact form loses nothing of the full one. -/
structure Faithful (e : Envelope) : Prop where
  coherent : e.okay = true ↔ e.error? = none
  told : e.compact.field? "ok" = some (.bool (e.compact.field? "error").isNone)
  full : e.full = .obj [("ok", .bool e.okay), ("data", e.data), ("error", e.errorJson)]
  compact : e.compact = Json.withoutNulls
    (.obj [("ok", .bool e.okay), ("data", e.data), ("error", e.errorJson.withoutNulls)])
  nulls : e.compact.HasNullField ↔
    e.data.HasNullField ∨ ∃ f ∈ e.error?, f.detailsJson.HasNullField
  again : ∃ gs, e.compact = .obj gs ∧ read gs = .ok e

theorem faithful (e : Envelope) : e.Faithful where
  coherent := by cases e <;> simp [okay, error?]
  told := by
    cases e with
    | success data => cases data <;> rfl
    | failure data error => cases data <;> rfl
  full := full_eq e
  compact := compact_eq e
  nulls := hasNullField_compact_iff
  again := read_compact e

/-- An object is read as an envelope iff its fields say so. Every envelope is coherent, and its
compact form is the full one without the null fields of the envelope itself and of its error;
reading it gives the same envelope back, so compacting is idempotent. Any data make a success, and
any code, message and details a failure. The data of a tool, whose null reply is dropped before, go
into an envelope unchanged. -/
theorem read_iff_faithful (fs : List (String × Json)) (e : Envelope) :
    (read fs = .ok e ↔ e.Says fs) ∧ e.Faithful ∧
    (∀ data, read [("ok", .bool true), ("data", data)] = .ok (.success data)) ∧
    (∀ (f : Failure) data,
      ofFailure [("code", .str f.code), ("message", .str f.message), ("details", f.detailsJson),
        ("data", data)] = .ok (.failure data f) ∧
      read [("ok", .bool false), ("data", data), ("error", f.full)] = .ok (.failure data f)) ∧
    ∀ d : HelpData, d.toJson = Json.withoutNulls (.obj d.parts) ∧
      d.envelope.compact = .obj [("ok", .bool true), ("data", d.toJson)] ∧
      (d.envelope.compact.HasNullField ↔ (Json.obj d.summary).HasNullField) := by
  refine ⟨read_eq_ok_iff, faithful e, fun data => rfl, fun f data => ?_, fun d => ?_⟩
  · obtain ⟨code, message, details⟩ := f
    cases details <;> exact ⟨rfl, rfl⟩
  · refine ⟨d.toJson_eq, rfl, ?_⟩
    rw [hasNullField_compact_iff, ← HelpData.hasNullField_toJson_iff]
    simp [HelpData.envelope, data, error?]

/-- A null inside the data is kept. -/
theorem hasNullField_compact_nested :
    let e : Envelope := .success (.obj [("a", .null)])
    read [("ok", .bool true), ("data", .obj [("a", .null)])] = .ok e ∧
      e.compact = .obj [("ok", .bool true), ("data", .obj [("a", .null)])] ∧
      e.compact.HasNullField := by
  intro e
  exact ⟨rfl, rfl, .inField (List.mem_cons_of_mem _ List.mem_cons_self) (.here List.mem_cons_self)⟩

end Envelope

end ScriptHelp
