import Outbox.Proofs.Reading
import Outbox.Settings.Document

/-!
# Settings survive their document

The document that states every setting is read back as the same settings.

* `Settings.settingsFields`, `preferencesFields`, `dispatchFields`, `timeoutsFields`: the fields that
  a document and its parts are read as.
* `Settings.fieldOr_eq`: among fields of different names, one is read from its own value.
* `Settings.ofRon_toRon`: **a document states the settings it was written for**, whatever characters
  their texts hold and however large their numbers are.
-/

set_option autoImplicit false

namespace Outbox.Settings

open Ron

/-! ## Values -/

/-- A number as it is read. -/
def numberValue (n : Nat) : Value := .integer ⟨false, n, none⟩

/-- A text that may be absent, as it is read. -/
def optionValue : Option String → Value
  | none => .nothing
  | some s => .something (.text s.toList)

def timeoutsFields (t : Timeouts) : List (List Char × Value) :=
  [("connect_secs".toList, numberValue t.connectSecs.toNat),
    ("ehlo_secs".toList, numberValue t.ehloSecs.toNat),
    ("auth_secs".toList, numberValue t.authSecs.toNat),
    ("mail_from_secs".toList, numberValue t.mailFromSecs.toNat),
    ("rcpt_to_secs".toList, numberValue t.rcptToSecs.toNat),
    ("data_secs".toList, numberValue t.dataSecs.toNat),
    ("quit_secs".toList, numberValue t.quitSecs.toNat)]

def preferencesFields (p : Preferences) : List (List Char × Value) :=
  [("ca_cert_store".toList, optionValue p.caStore),
    ("server".toList, optionValue p.server),
    ("port".toList, numberValue p.port.toNat),
    ("username".toList, optionValue p.username),
    ("password".toList, optionValue p.password),
    ("tls".toList, .word p.tls.name.toList)]

def dispatchFields (d : DispatchSettings) : List (List Char × Value) :=
  [("pool_size".toList, numberValue d.poolSize.count),
    ("default_poll_timeout_ms".toList, numberValue d.pollTimeoutMs.toNat),
    ("timeouts".toList, .record none (timeoutsFields d.timeouts))]

def settingsFields (s : Settings) : List (List Char × Value) :=
  [("smtp".toList, .record none (preferencesFields s.smtp)),
    ("dispatch".toList, .record none (dispatchFields s.dispatch))]

/-! ## Written forms -/

section Written

variable {ext : Extensions}

theorem reads_word64 {n : Nat} (h : n < 2 ^ 64) (depth : Nat) :
    Reads (value ext depth) (Printer.number n) (numberValue n) :=
  reads_value (fun _ _ _ => reads_number h) depth

theorem reads_option (o : Option String) (depth : Nat) :
    Reads (value ext (depth + 1)) (Printer.option (o.map Printer.quoted)) (optionValue o) := by
  cases o with
  | none => exact reads_value (fun _ _ _ => reads_nothing) _
  | some s => exact reads_value_something (reads_value (fun _ _ _ => reads_quoted s) _)

theorem reads_tls (m : TlsMode) (depth : Nat) :
    Reads (value ext depth) m.name.toList (.word m.name.toList) := by
  refine reads_value (fun _ _ _ => ?_) depth
  cases m with
  | implicit => exact reads_word (by decide) (by decide) (by decide)
  | disabled => exact reads_word (by decide) (by decide) (by decide)

theorem readsField {item : Reader Value} {name : String} {cs : List Char} {v : Value}
    (plain : isPlainName name.toList = true) (h : Reads item cs v) :
    ReadsField item (name, cs) (name.toList, v) :=
  ⟨rfl, plain, h⟩

theorem reads_timeouts (t : Timeouts) (depth : Nat) :
    Reads (value ext (depth + 2)) (timeoutsRon t) (.record none (timeoutsFields t)) := by
  have word (n : UInt64) : Reads (value ext depth) (Printer.number n.toNat) (numberValue n.toNat) :=
    reads_word64 n.toNat_lt depth
  refine reads_value_record (.cons (readsField (by decide) (word _)) ?_)
  refine .cons (readsField (by decide) (word _)) ?_
  refine .cons (readsField (by decide) (word _)) ?_
  refine .cons (readsField (by decide) (word _)) ?_
  refine .cons (readsField (by decide) (word _)) ?_
  refine .cons (readsField (by decide) (word _)) ?_
  exact .cons (readsField (by decide) (word _)) .nil

theorem reads_preferences (p : Preferences) (depth : Nat) :
    Reads (value ext (depth + 3)) (preferencesRon p) (.record none (preferencesFields p)) := by
  have port : p.port.toNat < 2 ^ 64 := Nat.lt_trans p.port.toNat_lt (by decide)
  refine reads_value_record (.cons (readsField (by decide) (reads_option _ depth)) ?_)
  refine .cons (readsField (by decide) (reads_option _ depth)) ?_
  refine .cons (readsField (by decide) (reads_word64 port _)) ?_
  refine .cons (readsField (by decide) (reads_option _ depth)) ?_
  refine .cons (readsField (by decide) (reads_option _ depth)) ?_
  exact .cons (readsField (by decide) (reads_tls _ _)) .nil

theorem reads_dispatch (d : DispatchSettings) (depth : Nat) :
    Reads (value ext (depth + 4)) (dispatchRon d) (.record none (dispatchFields d)) := by
  refine reads_value_record (.cons (readsField (by decide) (reads_word64 d.poolSize.lt _)) ?_)
  refine .cons (readsField (by decide) (reads_word64 d.pollTimeoutMs.toNat_lt _)) ?_
  exact .cons (readsField (by decide) (reads_timeouts _ depth)) .nil

end Written

/-! ## Fields -/

/-- Among fields of different names, one is read from its own value. -/
theorem fieldOr_eq {α : Type} {fields : List (List Char × Value)}
    (distinct : (fields.map Prod.fst).Nodup) (name : String) {v : Value}
    (h : (name.toList, v) ∈ fields) {read : Value → Option α} {a : α} (stated : read v = some a)
    (standard : α) : fieldOr fields name read standard = some a := by
  have only : fields.filter (fun f => f.1 == name.toList) = [(name.toList, v)] := by
    induction fields with
    | nil => cases h
    | cons f fields ih =>
      rw [List.map_cons, List.nodup_cons] at distinct
      obtain ⟨fresh, distinct⟩ := distinct
      rcases List.mem_cons.mp h with rfl | h
      · have others : fields.filter (fun f => f.1 == name.toList) = [] := by
          rw [List.filter_eq_nil_iff]
          intro g hg
          rw [beq_iff_eq]
          rintro same
          exact fresh (same ▸ List.mem_map.mpr ⟨g, hg, rfl⟩)
        simp [others]
      · have other : (f.1 == name.toList) = false := by
          rw [beq_eq_false_iff_ne]
          intro same
          exact fresh (same ▸ List.mem_map.mpr ⟨_, h, rfl⟩)
        rw [List.filter_cons, other]
        exact ih distinct h
  rw [fieldOr, only]
  exact stated

theorem readWord_numberValue {bits n : Nat} (h : n < 2 ^ bits) :
    readWord bits (numberValue n) = some n := by
  have fits : Width.fits ⟨false, bits⟩ false n = true := decide_eq_true h
  simp only [readWord, numberValue, fits]
  rfl

theorem readUInt64_numberValue (n : UInt64) : readUInt64 (numberValue n.toNat) = some n := by
  rw [readUInt64, readWord_numberValue n.toNat_lt, Option.map_some, UInt64.ofNat_toNat]

theorem readUInt32_numberValue (n : UInt32) : readUInt32 (numberValue n.toNat) = some n := by
  rw [readUInt32, readWord_numberValue n.toNat_lt, Option.map_some, UInt32.ofNat_toNat]

theorem readPoolSize_numberValue (n : PoolSize) : readPoolSize (numberValue n.count) = some n := by
  rw [readPoolSize, readWord_numberValue n.lt, Option.bind_some, PoolSize.ofNat?_count]

theorem readOption_optionValue (ext : Extensions) (o : Option String) :
    readOption ext (optionValue o) = some o := by
  cases o with
  | none => rfl
  | some s =>
    show (some (String.ofList s.toList)).map some = _
    rw [String.ofList_toList]
    rfl

theorem readTls_word (m : TlsMode) : readTls (.word m.name.toList) = some m := by
  show TlsMode.ofName? (String.ofList m.name.toList) = _
  rw [String.ofList_toList, TlsMode.ofName?_name]

/-! ## Records -/

theorem readTimeouts_fields (t : Timeouts) :
    readTimeouts Extensions.none (.record none (timeoutsFields t)) = some t := by
  have distinct : ((timeoutsFields t).map Prod.fst).Nodup := by
    show ["connect_secs".toList, "ehlo_secs".toList, "auth_secs".toList, "mail_from_secs".toList,
      "rcpt_to_secs".toList, "data_secs".toList, "quit_secs".toList].Nodup
    decide
  have named : fieldsOf Extensions.none "ClientTimeouts" (.record none (timeoutsFields t)) =
      some (timeoutsFields t) := rfl
  have stated (name : String) (n : UInt64)
      (h : (name.toList, numberValue n.toNat) ∈ timeoutsFields t) (standard : UInt64) :
      fieldOr (timeoutsFields t) name readUInt64 standard = some n :=
    fieldOr_eq distinct name h (readUInt64_numberValue n) standard
  have connect := stated "connect_secs" t.connectSecs (by simp [timeoutsFields])
  have ehlo := stated "ehlo_secs" t.ehloSecs (by simp [timeoutsFields])
  have auth := stated "auth_secs" t.authSecs (by simp [timeoutsFields])
  have mailFrom := stated "mail_from_secs" t.mailFromSecs (by simp [timeoutsFields])
  have rcptTo := stated "rcpt_to_secs" t.rcptToSecs (by simp [timeoutsFields])
  have data := stated "data_secs" t.dataSecs (by simp [timeoutsFields])
  have quit := stated "quit_secs" t.quitSecs (by simp [timeoutsFields])
  simp only [readTimeouts, named, connect, ehlo, auth, mailFrom, rcptTo, data, quit,
    Option.bind_eq_bind, Option.bind_some]
  rfl

theorem readPreferences_fields (p : Preferences) :
    readPreferences Extensions.none (.record none (preferencesFields p)) = some p := by
  have distinct : ((preferencesFields p).map Prod.fst).Nodup := by
    show ["ca_cert_store".toList, "server".toList, "port".toList, "username".toList,
      "password".toList, "tls".toList].Nodup
    decide
  have named : fieldsOf Extensions.none "SmtpPreferences" (.record none (preferencesFields p)) =
      some (preferencesFields p) := rfl
  have stated (name : String) (o : Option String)
      (h : (name.toList, optionValue o) ∈ preferencesFields p) (standard : Option String) :
      fieldOr (preferencesFields p) name (readOption Extensions.none) standard = some o :=
    fieldOr_eq distinct name h (readOption_optionValue _ o) standard
  have caStore := stated "ca_cert_store" p.caStore (by simp [preferencesFields])
  have server := stated "server" p.server (by simp [preferencesFields])
  have port := fieldOr_eq distinct "port" (by simp [preferencesFields])
    (readUInt32_numberValue p.port)
  have username := stated "username" p.username (by simp [preferencesFields])
  have password := stated "password" p.password (by simp [preferencesFields])
  have tls := fieldOr_eq distinct "tls" (by simp [preferencesFields]) (readTls_word p.tls)
  simp only [readPreferences, named, caStore, server, port, username, password, tls,
    Option.bind_eq_bind, Option.bind_some]
  rfl

theorem readDispatch_fields (d : DispatchSettings) :
    readDispatch Extensions.none (.record none (dispatchFields d)) = some d := by
  have distinct : ((dispatchFields d).map Prod.fst).Nodup := by
    show ["pool_size".toList, "default_poll_timeout_ms".toList, "timeouts".toList].Nodup
    decide
  have named : fieldsOf Extensions.none "DispatchConfig" (.record none (dispatchFields d)) =
      some (dispatchFields d) := rfl
  have poolSize := fieldOr_eq distinct "pool_size" (by simp [dispatchFields])
    (readPoolSize_numberValue d.poolSize)
  have pollTimeout := fieldOr_eq distinct "default_poll_timeout_ms" (by simp [dispatchFields])
    (readUInt64_numberValue d.pollTimeoutMs)
  have timeouts := fieldOr_eq distinct "timeouts" (by simp [dispatchFields])
    (readTimeouts_fields d.timeouts)
  simp only [readDispatch, named, poolSize, pollTimeout, timeouts, Option.bind_eq_bind,
    Option.bind_some]
  rfl

theorem readSettings_fields (s : Settings) :
    readSettings Extensions.none (.record none (settingsFields s)) = some s := by
  have distinct : ((settingsFields s).map Prod.fst).Nodup := by
    show ["smtp".toList, "dispatch".toList].Nodup
    decide
  have named : fieldsOf Extensions.none "HeraldConfig" (.record none (settingsFields s)) =
      some (settingsFields s) := rfl
  have smtp := fieldOr_eq distinct "smtp" (by simp [settingsFields]) (readPreferences_fields s.smtp)
  have dispatch := fieldOr_eq distinct "dispatch" (by simp [settingsFields])
    (readDispatch_fields s.dispatch)
  simp only [readSettings, named, smtp, dispatch, Option.bind_eq_bind, Option.bind_some]
  rfl

/-- **A document states the settings that it was written for.** -/
theorem ofRon_toRon (s : Settings) : ofRon s.toRon = .ok s := by
  -- the settings lie two levels down, and what nests deepest in them is far from the limit
  have fields : Reads (value Extensions.none maxDepth)
      (Printer.record [("smtp", preferencesRon s.smtp), ("dispatch", dispatchRon s.dispatch)])
      (.record none (settingsFields s)) := by
    have depth : maxDepth = 126 + 2 := rfl
    rw [depth]
    apply reads_value_record
    refine .cons (readsField (by decide) (reads_preferences s.smtp 123)) ?_
    exact .cons (readsField (by decide) (reads_dispatch s.dispatch 122)) .nil
  have read : document s.toRon.toList = some ⟨Extensions.none, .record none (settingsFields s)⟩ := by
    rw [toRon, String.toList_ofList]
    exact document_of_reads fields (by simp [Printer.record])
  rw [ofRon, read]
  simp only [readSettings_fields]

end Outbox.Settings
