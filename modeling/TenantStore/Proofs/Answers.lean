import TenantStore.Proofs.Conditions
import TenantStore.Proofs.Json.Nesting

/-!
# What is made of a response

Every response that the reader has room for is answered with an envelope, whatever its body holds.
`Answer.success_ofBody_iff`: the envelope reports success exactly if the status is no error and the
body grants it, which is either a mapping whose members are of the right kind and say so, or any
other JSON value with a status of success. `Answer.error_ofBody`: an error status always leaves some
error text.
-/

namespace TenantStore.Answer

def Holds (room : Nat) (body : List UInt8) (v : Data) : Prop :=
  payload room body = .ok (some v)

/-- What is at this key, if anything, is null or passes the check. -/
def Passes {α : Type} (check : Data → Checked α) (key : String) (es : List (Data × Data)) : Prop :=
  ∀ v, Value.field? key es = some v → v = .null ∨ ∃ a, check v = .ok a

/-- The members of an envelope are of the right kind, and it reports this. -/
structure Reports (success : Bool) (es : List (Data × Data)) : Prop where
  success : Checked.optional es "success" false Coercion.bool = .ok success
  error : Passes Coercion.text "error" es
  message : Passes Coercion.text "message" es
  status : Passes Coercion.int "status_code" es
  keys : ∀ e ∈ es, isStrictKey e.1 = true

/-- The body lets a response with this status be a success. -/
inductive Grants (status : Nat) (body : List UInt8) (room : Nat) : Prop
  | object (h : Holds room body (.map es)) (hsuccess : Reports true es) : Grants status body room
  | other (h : Holds room body v) (hv : ∀ es, v ≠ .map es) (hstatus : 200 ≤ status ∧ status < 300) :
    Grants status body room

variable {es : List (Data × Data)} {status room : Nat} {body : List UInt8} {p : Option Data}

theorem nullable_ok_iff {check : Data → Checked α} (v : Data) :
    (∃ a, Coercion.nullable check v = .ok a) ↔ v = .null ∨ ∃ a, check v = .ok a := by
  by_cases hnull : v = .null
  · subst hnull
    exact iff_of_true ⟨none, rfl⟩ (.inl rfl)
  · simp only [Coercion.nullable_of_ne hnull, Checked.map_ok, hnull, false_or]
    exact ⟨fun ⟨_, a, ha, _⟩ => ⟨a, ha⟩, fun ⟨a, ha⟩ => ⟨some a, a, ha, rfl⟩⟩

theorem optional_nullable_iff {check : Data → Checked α} {key : String} :
    (∃ a, Checked.optional es key none (Coercion.nullable check) = .ok a) ↔
      Passes check key es := by
  cases hfield : Value.field? key es with
  | none =>
    exact iff_of_true ⟨none, Checked.optional_absent hfield⟩
      fun v hv => absurd (hfield.symm.trans hv) nofun
  | some v =>
    simp only [Checked.optional_ok hfield, nullable_ok_iff]
    refine ⟨fun h w hw => ?_, fun h => h v hfield⟩
    obtain rfl := Option.some.inj (hfield.symm.trans hw)
    exact h

theorem strictKeys_ok : strictKeys es = .ok () ↔ ∀ e ∈ es, isStrictKey e.1 = true := by
  rw [← List.all_eq_true, strictKeys]
  split
  · rename_i h
    exact iff_of_true rfl h
  · rename_i h
    exact iff_of_false nofun h

theorem envelope_ok_iff (status : Nat) (es : List (Data × Data)) (success : Bool) :
    (∃ a, envelope status es = .ok a ∧ a.success = success) ↔ Reports success es := by
  have hdata : ∃ data, Checked.optional es "data" .null .ok = .ok data := by
    cases hfield : Value.field? "data" es with
    | none => exact ⟨.null, Checked.optional_absent hfield⟩
    | some v => exact ⟨v, (Checked.optional_ok hfield).mpr rfl⟩
  constructor
  · rintro ⟨a, ha, rfl⟩
    obtain ⟨_, _, hfive, hkeys, rfl⟩ := Checked.both_ok.mp ha
    obtain ⟨_, number, hfour, hnumber, rfl⟩ := Checked.both_ok.mp hfive
    obtain ⟨_, message, hthree, hmessage, rfl⟩ := Checked.both_ok.mp hfour
    obtain ⟨_, error, htwo, herror, rfl⟩ := Checked.both_ok.mp hthree
    obtain ⟨_, data, hone, -, rfl⟩ := Checked.both_ok.mp htwo
    obtain ⟨success, hsuccess, rfl⟩ := Checked.map_ok.mp hone
    exact ⟨hsuccess, optional_nullable_iff.mp ⟨error, herror⟩,
      optional_nullable_iff.mp ⟨message, hmessage⟩, optional_nullable_iff.mp ⟨number, hnumber⟩,
      strictKeys_ok.mp hkeys⟩
  · intro h
    obtain ⟨data, hdata⟩ := hdata
    obtain ⟨error, herror⟩ := optional_nullable_iff.mpr h.error
    obtain ⟨message, hmessage⟩ := optional_nullable_iff.mpr h.message
    obtain ⟨number, hnumber⟩ := optional_nullable_iff.mpr h.status
    unfold envelope
    rw [h.success, hdata, herror, hmessage, hnumber, strictKeys_ok.mpr h.keys]
    exact ⟨_, rfl, rfl⟩

theorem status_envelope (h : envelope status es = .ok a) : a.status = status := by
  obtain ⟨_, _, hnumber, -, rfl⟩ := Checked.both_ok.mp h
  obtain ⟨_, _, hmessage, -, rfl⟩ := Checked.both_ok.mp hnumber
  obtain ⟨_, _, herror, -, rfl⟩ := Checked.both_ok.mp hmessage
  obtain ⟨_, _, hdata, -, rfl⟩ := Checked.both_ok.mp herror
  obtain ⟨_, _, hsuccess, -, rfl⟩ := Checked.both_ok.mp hdata
  obtain ⟨_, -, rfl⟩ := Checked.map_ok.mp hsuccess
  rfl

-- ---------------------------------------------------------------------------
-- Bodies
-- ---------------------------------------------------------------------------

theorem status_marked (a : Answer) : a.marked.status = a.status := by
  unfold marked
  split <;> rfl

theorem success_marked (a : Answer) :
    a.marked.success = true ↔ isErrorStatus a.status = false ∧ a.success = true := by
  unfold marked
  split
  · rename_i h
    exact iff_of_false nofun fun hok => absurd (hok.1.symm.trans h) nofun
  · rename_i h
    exact (and_iff_right (Bool.not_eq_true _ ▸ h)).symm

theorem http_ne_empty (status : Nat) :
    ("HTTP " ++ Decimal.natText status : RawText) ≠ RawText.ofString "" := by
  intro hempty
  have hpoints := congrArg RawText.points hempty
  cases (List.append_eq_nil_iff.mp hpoints).1

theorem error_marked {a : Answer} (h : isErrorStatus a.status = true) :
    ∃ text, a.marked.error = some text ∧ text ≠ "" := by
  unfold marked
  rw [if_pos h]
  refine ⟨_, rfl, ?_⟩
  cases a.error with
  | none => exact http_ne_empty a.status
  | some e =>
    show (if e ≠ "" then e else _) ≠ RawText.ofString ""
    split
    · assumption
    · exact http_ne_empty a.status

theorem ofPayload_eq (status : Nat) (p : Option Data) : ∃ a : Answer,
    ofPayload status p = a.marked ∧ a.status = status ∧
      (a.success = true ↔ Reports true (entriesOf status p)) := by
  have hreports := envelope_ok_iff status (entriesOf status p) true
  unfold ofPayload
  cases henvelope : envelope status (entriesOf status p) with
  | ok a =>
    refine ⟨a, rfl, status_envelope henvelope, Iff.trans ⟨fun h => ⟨a, henvelope, h⟩, ?_⟩ hreports⟩
    rintro ⟨b, hb, hsuccess⟩
    obtain rfl := Checked.ok.inj (henvelope.symm.trans hb)
    exact hsuccess
  | bad fs =>
    refine ⟨malformed status, rfl, rfl, iff_of_false nofun fun h => ?_⟩
    obtain ⟨a, ha, -⟩ := hreports.mpr h
    exact absurd (henvelope.symm.trans ha) nofun

theorem ofBody_ok : ofBody status body room = .ok a ↔
    ∃ p, payload room body = .ok p ∧ ofPayload status p = a := by
  unfold ofBody
  cases payload room body <;> simp [Except.map]

theorem exists_ofBody_iff : (∃ a, ofBody status body room = .ok a) ↔ ¬ TooNested room body := by
  unfold ofBody TooNested
  cases h : payload room body with
  | ok p => exact iff_of_true ⟨_, rfl⟩ nofun
  | error f =>
    obtain rfl := payload_error h
    exact iff_of_false nofun (not_not.mpr rfl)

theorem ofBody_of_tooNested (h : TooNested room body) (status : Nat) :
    ofBody status body room = .error .tooNested := by
  rw [ofBody, show payload room body = _ from h]
  rfl

theorem tooNested_or_ofBody (status : Nat) (body : List UInt8) (room : Nat) :
    TooNested room body ∧ ofBody status body room = .error .tooNested ∨
      ¬ TooNested room body ∧ ∃ a, ofBody status body room = .ok a := by
  by_cases h : TooNested room body
  · exact .inl ⟨h, ofBody_of_tooNested h status⟩
  · exact .inr ⟨h, exists_ofBody_iff.mpr h⟩

theorem status_ofBody (h : ofBody status body room = .ok a) : a.status = status := by
  obtain ⟨p, -, rfl⟩ := ofBody_ok.mp h
  obtain ⟨b, hpayload, hstatus, -⟩ := ofPayload_eq status p
  rw [hpayload, status_marked, hstatus]

theorem entriesOf_data {v : Data} (hv : ∀ es, v ≠ .map es) : entriesOf status (some v) =
    [(.text "success", .bool (isSuccessStatus status)), (.text "data", v)] := by
  cases v with
  | map es => exact absurd rfl (hv es)
  | _ => rfl

/-- What is no object counts as the data of an envelope that reports what the status says. -/
theorem reports_data {ok success : Bool} {v : Data} :
    Reports success [(.text "success", .bool ok), (.text "data", v)] ↔ ok = success := by
  refine ⟨fun h => Checked.ok.inj h.success, ?_⟩
  rintro rfl
  exact ⟨rfl, fun _ h => absurd h nofun, fun _ h => absurd h nofun, fun _ h => absurd h nofun,
    by simp [isStrictKey]⟩

theorem isSuccessStatus_iff : isSuccessStatus status = true ↔ 200 ≤ status ∧ status < 300 := by
  simp [isSuccessStatus]

theorem reports_entriesOf (hp : payload room body = .ok p) :
    Reports true (entriesOf status p) ↔ Grants status body room := by
  constructor
  · intro h
    cases p with
    | none => exact absurd h.success nofun
    | some v =>
      by_cases hv : ∃ es, v = .map es
      · obtain ⟨es, rfl⟩ := hv
        exact .object hp h
      · have hes : ∀ es, v ≠ .map es := fun es hes => hv ⟨es, hes⟩
        rw [entriesOf_data hes, reports_data, isSuccessStatus_iff] at h
        exact .other hp hes h
  · rintro (⟨hbody, h⟩ | ⟨hbody, hes, h⟩)
    · obtain rfl := Except.ok.inj (hp.symm.trans hbody)
      exact h
    · obtain rfl := Except.ok.inj (hp.symm.trans hbody)
      rw [entriesOf_data hes, reports_data, isSuccessStatus_iff]
      exact h

/-- A response is a success if its status is no error and its body grants it. -/
theorem success_ofBody_iff (ha : ofBody status body room = .ok a) (h : status < 600) :
    a.success = true ↔ status < 400 ∧ Grants status body room := by
  obtain ⟨p, hp, rfl⟩ := ofBody_ok.mp ha
  obtain ⟨b, hpayload, rfl, hsuccess⟩ := ofPayload_eq status p
  rw [hpayload, success_marked, hsuccess, reports_entriesOf hp]
  refine and_congr_left' ?_
  simp [isErrorStatus, h]

theorem not_success_of_errorStatus (ha : ofBody status body room = .ok a) (h : 400 ≤ status)
    (h' : status < 600) : a.success = false :=
  Bool.eq_false_iff.mpr fun hsuccess =>
    Nat.not_lt.mpr h ((success_ofBody_iff ha h').mp hsuccess).1

theorem error_ofBody (ha : ofBody status body room = .ok a) (h : status < 600)
    (herror : 400 ≤ status) : ∃ text, a.error = some text ∧ text ≠ "" := by
  obtain ⟨p, -, rfl⟩ := ofBody_ok.mp ha
  obtain ⟨b, hpayload, rfl, -⟩ := ofPayload_eq status p
  rw [hpayload]
  exact error_marked (by simp [isErrorStatus, h, herror])

end TenantStore.Answer
