import Outbox.Proofs.Layouts
import Outbox.Settings.Document

/-!
# A document may state any part of the settings

What a document leaves out keeps its standard value, whatever else stands in it and however it is
laid out.

* `Settings.Part`, `DispatchSettings.Part`, `Preferences.Part`, `Timeouts.Part`: any choice of
  settings, and `over`, the settings that have them replaced.
* `Part.Stated`: a value states a part if each known field stands in it once or not at all, in any
  order and among any others.
* `Faulty`: a known field stands twice, a number is no word of its field's type, or there are to be
  no slots.
* `ofRon_partial`: **a document that states a part is read as the standard settings with that part
  replaced, and one that is faulty is malformed.** The part alone decides on the result, so neither
  the order of the fields nor their layout nor unknown fields do.
-/

set_option autoImplicit false

namespace Outbox

open Ron

/-! ## Parts -/

/-- Some of the limits. -/
structure Timeouts.Part where
  connectSecs : Option UInt64
  ehloSecs : Option UInt64
  authSecs : Option UInt64
  mailFromSecs : Option UInt64
  rcptToSecs : Option UInt64
  dataSecs : Option UInt64
  quitSecs : Option UInt64

/-- Some of the mail server settings. -/
structure Preferences.Part where
  caStore : Option (Option String)
  server : Option (Option String)
  port : Option UInt32
  username : Option (Option String)
  password : Option (Option String)
  tls : Option TlsMode

/-- Some of the shape of the engine. -/
structure DispatchSettings.Part where
  poolSize : Option PoolSize
  pollTimeoutMs : Option UInt64
  timeouts : Option Timeouts.Part

/-- Some of all settings. -/
structure Settings.Part where
  smtp : Option Preferences.Part
  dispatch : Option DispatchSettings.Part

/-- The limits with those of a part replaced. -/
def Timeouts.Part.over (p : Part) (t : Timeouts) : Timeouts :=
  ⟨p.connectSecs.getD t.connectSecs, p.ehloSecs.getD t.ehloSecs, p.authSecs.getD t.authSecs,
    p.mailFromSecs.getD t.mailFromSecs, p.rcptToSecs.getD t.rcptToSecs, p.dataSecs.getD t.dataSecs,
    p.quitSecs.getD t.quitSecs⟩

def Preferences.Part.over (p : Part) (s : Preferences) : Preferences :=
  ⟨p.caStore.getD s.caStore, p.server.getD s.server, p.port.getD s.port, p.username.getD s.username,
    p.password.getD s.password, p.tls.getD s.tls⟩

def DispatchSettings.Part.over (p : Part) (d : DispatchSettings) : DispatchSettings :=
  ⟨p.poolSize.getD d.poolSize, p.pollTimeoutMs.getD d.pollTimeoutMs,
    (p.timeouts.map fun t => t.over d.timeouts).getD d.timeouts⟩

def Settings.Part.over (p : Part) (s : Settings) : Settings :=
  ⟨(p.smtp.map fun q => q.over s.smtp).getD s.smtp,
    (p.dispatch.map fun d => d.over s.dispatch).getD s.dispatch⟩

namespace Settings

/-! ## What a value states -/

/-- The fields of a record that is written without a name or with its own. -/
inductive IsRecord (name : String) : Value → List (List Char × Value) → Prop where
  | fields {n : Option (List Char)} {fs : List (List Char × Value)} :
      n = none ∨ n = some name.toList → IsRecord name (.record n fs) fs
  | empty {n : Option (List Char)} :
      n = none ∨ n = some name.toList → IsRecord name (.tuple n []) []

/-- A word of so many bits. It may name that type, and zero may have any sign. -/
inductive IsWord (bits : Nat) : Value → Nat → Prop where
  | mk {negative : Bool} {n : Nat} {width : Option Width} :
      width = none ∨ width = some ⟨false, bits⟩ → (negative = true → n = 0) → n < 2 ^ bits →
      IsWord bits (.integer ⟨negative, n, width⟩) n

/-- A text that may be absent. -/
inductive IsOption : Value → Option String → Prop where
  | nothing : IsOption .nothing none
  | something (s : String) : IsOption (.something (.text s.toList)) (some s)

/-- A mode, by its name. -/
inductive IsMode : Value → TlsMode → Prop where
  | word (m : TlsMode) : IsMode (.word m.name.toList) m

/-- What fields state of one name: nothing, or the meaning of the only value that it has. -/
inductive States {α : Type} (Means : Value → α → Prop) (fields : List (List Char × Value))
    (name : String) : Option α → Prop where
  | absent : (∀ f ∈ fields, f.1 ≠ name.toList) → States Means fields name none
  | once {before after : List (List Char × Value)} {v : Value} {x : α} :
      fields = before ++ (name.toList, v) :: after →
      (∀ f ∈ before ++ after, f.1 ≠ name.toList) → Means v x → States Means fields name (some x)

def IsUInt64 (v : Value) (n : UInt64) : Prop := IsWord 64 v n.toNat

def IsUInt32 (v : Value) (n : UInt32) : Prop := IsWord 32 v n.toNat

def IsPoolSize (v : Value) (n : PoolSize) : Prop := IsWord 64 v n.count

end Settings

open Settings

/-- A part of the limits, field by field. -/
structure Timeouts.Part.Listed (fs : List (List Char × Value)) (p : Part) : Prop where
  connectSecs : States IsUInt64 fs "connect_secs" p.connectSecs
  ehloSecs : States IsUInt64 fs "ehlo_secs" p.ehloSecs
  authSecs : States IsUInt64 fs "auth_secs" p.authSecs
  mailFromSecs : States IsUInt64 fs "mail_from_secs" p.mailFromSecs
  rcptToSecs : States IsUInt64 fs "rcpt_to_secs" p.rcptToSecs
  dataSecs : States IsUInt64 fs "data_secs" p.dataSecs
  quitSecs : States IsUInt64 fs "quit_secs" p.quitSecs

def Timeouts.Part.Stated (v : Value) (p : Part) : Prop :=
  ∃ fs, IsRecord "ClientTimeouts" v fs ∧ p.Listed fs

structure Preferences.Part.Listed (fs : List (List Char × Value)) (p : Part) : Prop where
  caStore : States IsOption fs "ca_cert_store" p.caStore
  server : States IsOption fs "server" p.server
  port : States IsUInt32 fs "port" p.port
  username : States IsOption fs "username" p.username
  password : States IsOption fs "password" p.password
  tls : States IsMode fs "tls" p.tls

def Preferences.Part.Stated (v : Value) (p : Part) : Prop :=
  ∃ fs, IsRecord "SmtpPreferences" v fs ∧ p.Listed fs

structure DispatchSettings.Part.Listed (fs : List (List Char × Value)) (p : Part) : Prop where
  poolSize : States IsPoolSize fs "pool_size" p.poolSize
  pollTimeoutMs : States IsUInt64 fs "default_poll_timeout_ms" p.pollTimeoutMs
  timeouts : States Timeouts.Part.Stated fs "timeouts" p.timeouts

def DispatchSettings.Part.Stated (v : Value) (p : Part) : Prop :=
  ∃ fs, IsRecord "DispatchConfig" v fs ∧ p.Listed fs

structure Settings.Part.Listed (fs : List (List Char × Value)) (p : Part) : Prop where
  smtp : States Preferences.Part.Stated fs "smtp" p.smtp
  dispatch : States DispatchSettings.Part.Stated fs "dispatch" p.dispatch

/-- Whether a value states just this part of the settings. -/
def Settings.Part.Stated (v : Value) (p : Part) : Prop :=
  ∃ fs, IsRecord "HeraldConfig" v fs ∧ p.Listed fs

namespace Settings

/-! ## Reading what is stated -/

theorem fieldsOf_eq_some_iff {name : String} {v : Value} {fs : List (List Char × Value)} :
    fieldsOf Extensions.none name v = some fs ↔ IsRecord name v fs := by
  constructor
  · intro h
    cases v with
    | record n gs =>
      cases n with
      | none =>
        obtain rfl := Option.some.inj h
        exact .fields (.inl rfl)
      | some n =>
        have known : (if n == name.toList then some gs else none) = some fs := h
        rw [Option.ite_none_right_eq_some, beq_iff_eq] at known
        obtain ⟨rfl, same⟩ := known
        obtain rfl := Option.some.inj same
        exact .fields (.inr rfl)
    | tuple n vs =>
      cases vs with
      | nil =>
        cases n with
        | none =>
          obtain rfl := Option.some.inj h
          exact .empty (.inl rfl)
        | some n =>
          have known : (if n == name.toList then some [] else none) = some fs := h
          rw [Option.ite_none_right_eq_some, beq_iff_eq] at known
          obtain ⟨rfl, same⟩ := known
          obtain rfl := Option.some.inj same
          exact .empty (.inr rfl)
      | cons => cases h
    | _ => cases h
  · rintro (⟨rfl | rfl⟩ | ⟨rfl | rfl⟩)
    · rfl
    · exact if_pos (beq_self_eq_true _)
    · rfl
    · exact if_pos (beq_self_eq_true _)

theorem fits_word {bits n : Nat} {negative : Bool} :
    Width.fits ⟨false, bits⟩ negative n = true ↔ (negative = true → n = 0) ∧ n < 2 ^ bits := by
  have size : Width.size ⟨false, bits⟩ = 2 ^ bits := rfl
  have pos : 0 < 2 ^ bits := Nat.two_pow_pos bits
  cases negative with
  | false => simp [Width.fits, size]
  | true =>
    simp only [Width.fits, if_true, Bool.false_eq_true, if_false, beq_iff_eq, true_imp_iff]
    exact ⟨fun zero => ⟨zero, zero ▸ pos⟩, And.left⟩

theorem readWord_eq_some_iff {bits n : Nat} {v : Value} :
    readWord bits v = some n ↔ IsWord bits v n := by
  constructor
  · intro h
    unfold readWord at h
    split at h
    · next i =>
      rw [Option.ite_none_right_eq_some, Bool.and_eq_true, Bool.or_eq_true, beq_iff_eq, beq_iff_eq,
        fits_word] at h
      obtain ⟨⟨known, positive, small⟩, same⟩ := h
      obtain rfl := Option.some.inj same
      exact .mk known positive small
    · cases h
  · rintro ⟨known, positive, small⟩
    refine if_pos ?_
    rw [Bool.and_eq_true, Bool.or_eq_true, beq_iff_eq, beq_iff_eq]
    exact ⟨known, fits_word.mpr ⟨positive, small⟩⟩

theorem IsUInt64.read {v : Value} {n : UInt64} (h : IsUInt64 v n) : readUInt64 v = some n := by
  rw [readUInt64, readWord_eq_some_iff.mpr h, Option.map_some, UInt64.ofNat_toNat]

theorem IsUInt32.read {v : Value} {n : UInt32} (h : IsUInt32 v n) : readUInt32 v = some n := by
  rw [readUInt32, readWord_eq_some_iff.mpr h, Option.map_some, UInt32.ofNat_toNat]

theorem IsPoolSize.read {v : Value} {n : PoolSize} (h : IsPoolSize v n) :
    readPoolSize v = some n := by
  rw [readPoolSize, readWord_eq_some_iff.mpr h, Option.bind_some, PoolSize.ofNat?_count]

theorem IsOption.read {v : Value} {o : Option String} (h : IsOption v o) (ext : Extensions) :
    readOption ext v = some o := by
  cases h with
  | nothing => rfl
  | something s =>
    show (some (String.ofList s.toList)).map some = _
    rw [String.ofList_toList]
    rfl

theorem IsMode.read {v : Value} {m : TlsMode} (h : IsMode v m) : readTls v = some m := by
  cases h with
  | word m =>
    show TlsMode.ofName? (String.ofList m.name.toList) = _
    rw [String.ofList_toList, TlsMode.ofName?_name]

/-- A field that is stated at most once is read, or keeps its standard value. -/
theorem States.read {α β : Type} {Means : Value → α → Prop} {fs : List (List Char × Value)}
    {name : String} {o : Option α} (h : States Means fs name o) {read : Value → Option β}
    (f : α → β) (reads : ∀ v x, Means v x → read v = some (f x)) (standard : β) :
    fieldOr fs name read standard = some ((o.map f).getD standard) := by
  cases h with
  | absent other =>
    have none : fs.filter (fun f => f.1 == name.toList) = [] := by
      rw [List.filter_eq_nil_iff]
      exact fun g hg => by simpa using other g hg
    rw [fieldOr, none]
    rfl
  | @once before after v x written other means =>
    have none {gs : List (List Char × Value)} (sub : ∀ g ∈ gs, g ∈ before ++ after) :
        gs.filter (fun f => f.1 == name.toList) = [] := by
      rw [List.filter_eq_nil_iff]
      exact fun g hg => by simpa using other g (sub g hg)
    have only : fs.filter (fun f => f.1 == name.toList) = [(name.toList, v)] := by
      rw [written, List.filter_append, none fun g hg => List.mem_append_left _ hg,
        List.filter_cons_of_pos (by simp), none fun g hg => List.mem_append_right _ hg]
      rfl
    rw [fieldOr, only]
    exact reads v x means

/-- A field is read, or keeps its standard value. -/
theorem States.read_self {α : Type} {Means : Value → α → Prop} {fs : List (List Char × Value)}
    {name : String} {o : Option α} (h : States Means fs name o) {read : Value → Option α}
    (reads : ∀ v x, Means v x → read v = some x) (standard : α) :
    fieldOr fs name read standard = some (o.getD standard) := by
  have whole := h.read id reads standard
  rwa [Option.map_id, id] at whole

theorem readTimeouts_stated {v : Value} {p : Timeouts.Part} (h : p.Stated v) :
    readTimeouts Extensions.none v = some (p.over Timeouts.standard) := by
  obtain ⟨fs, record, listed⟩ := h
  have limit {name : String} {o : Option UInt64} (h : States IsUInt64 fs name o)
      (standard : UInt64) : fieldOr fs name readUInt64 standard = some (o.getD standard) :=
    h.read_self (fun _ _ => IsUInt64.read) standard
  simp only [readTimeouts, fieldsOf_eq_some_iff.mpr record, limit listed.connectSecs,
    limit listed.ehloSecs, limit listed.authSecs, limit listed.mailFromSecs,
    limit listed.rcptToSecs, limit listed.dataSecs, limit listed.quitSecs, Option.bind_eq_bind,
    Option.bind_some]
  rfl

theorem readPreferences_stated {v : Value} {p : Preferences.Part} (h : p.Stated v) :
    readPreferences Extensions.none v = some (p.over Preferences.standard) := by
  obtain ⟨fs, record, listed⟩ := h
  have text {name : String} {o : Option (Option String)} (h : States IsOption fs name o)
      (standard : Option String) :
      fieldOr fs name (readOption Extensions.none) standard = some (o.getD standard) :=
    h.read_self (fun _ _ h => h.read _) standard
  have port := listed.port.read_self (fun _ _ => IsUInt32.read) 0
  have tls := listed.tls.read_self (fun _ _ => IsMode.read) TlsMode.standard
  simp only [readPreferences, fieldsOf_eq_some_iff.mpr record, text listed.caStore,
    text listed.server, port, text listed.username, text listed.password, tls,
    Option.bind_eq_bind, Option.bind_some]
  rfl

theorem readDispatch_stated {v : Value} {p : DispatchSettings.Part} (h : p.Stated v) :
    readDispatch Extensions.none v = some (p.over DispatchSettings.standard) := by
  obtain ⟨fs, record, listed⟩ := h
  have poolSize := listed.poolSize.read_self (fun _ _ => IsPoolSize.read)
    DispatchSettings.Default.poolSize
  have pollTimeout := listed.pollTimeoutMs.read_self (fun _ _ => IsUInt64.read)
    DispatchSettings.Default.pollTimeoutMs
  have timeouts := listed.timeouts.read _ (fun _ _ => readTimeouts_stated) Timeouts.standard
  simp only [readDispatch, fieldsOf_eq_some_iff.mpr record, poolSize, pollTimeout, timeouts,
    Option.bind_eq_bind, Option.bind_some]
  rfl

theorem readSettings_stated {v : Value} {p : Part} (h : p.Stated v) :
    readSettings Extensions.none v = some (p.over standard) := by
  obtain ⟨fs, record, listed⟩ := h
  have smtp := listed.smtp.read _ (fun _ _ => readPreferences_stated) Preferences.standard
  have dispatch := listed.dispatch.read _ (fun _ _ => readDispatch_stated)
    DispatchSettings.standard
  simp only [readSettings, fieldsOf_eq_some_iff.mpr record, smtp, dispatch, Option.bind_eq_bind,
    Option.bind_some]
  rfl

/-! ## What no part states -/

/-- The records that hold settings. -/
inductive Level where
  | settings
  | preferences
  | dispatch
  | timeouts
  deriving DecidableEq, Repr

/-- The fields that a record knows. -/
def Level.fields : Level → List String
  | .settings => ["smtp", "dispatch"]
  | .preferences => ["ca_cert_store", "server", "port", "username", "password", "tls"]
  | .dispatch => ["pool_size", "default_poll_timeout_ms", "timeouts"]
  | .timeouts => ["connect_secs", "ehlo_secs", "auth_secs", "mail_from_secs", "rcpt_to_secs",
      "data_secs", "quit_secs"]

/-- The fields that take a word, and how many bits it has. -/
def Level.words : Level → List (String × Nat)
  | .settings => []
  | .preferences => [("port", 32)]
  | .dispatch => [("pool_size", 64), ("default_poll_timeout_ms", 64)]
  | .timeouts => [("connect_secs", 64), ("ehlo_secs", 64), ("auth_secs", 64),
      ("mail_from_secs", 64), ("rcpt_to_secs", 64), ("data_secs", 64), ("quit_secs", 64)]

/-- The fields of the records inside a value that hold settings. -/
inductive Holds (v : Value) : Level → List (List Char × Value) → Prop where
  | settings {fs : List (List Char × Value)} : IsRecord "HeraldConfig" v fs → Holds v .settings fs
  | preferences {fs gs : List (List Char × Value)} {w : Value} : Holds v .settings fs →
      ("smtp".toList, w) ∈ fs → IsRecord "SmtpPreferences" w gs → Holds v .preferences gs
  | dispatch {fs gs : List (List Char × Value)} {w : Value} : Holds v .settings fs →
      ("dispatch".toList, w) ∈ fs → IsRecord "DispatchConfig" w gs → Holds v .dispatch gs
  | timeouts {fs gs : List (List Char × Value)} {w : Value} : Holds v .dispatch fs →
      ("timeouts".toList, w) ∈ fs → IsRecord "ClientTimeouts" w gs → Holds v .timeouts gs

/-- Whether a known field stands twice, a number is no word of its field's type, or there are to be
no slots. -/
inductive Faulty (v : Value) : Prop where
  | twice {l : Level} {fs : List (List Char × Value)} {name : String} : Holds v l fs →
      name ∈ l.fields → 1 < (fs.map Prod.fst).count name.toList → Faulty v
  | unfit {l : Level} {fs : List (List Char × Value)} {name : String} {bits : Nat} {w : Value} :
      Holds v l fs → (name, bits) ∈ l.words → (name.toList, w) ∈ fs → (∀ n, ¬IsWord bits w n) →
      Faulty v
  | idle {fs : List (List Char × Value)} {w : Value} : Holds v .dispatch fs →
      ("pool_size".toList, w) ∈ fs → IsWord 64 w 0 → Faulty v

/-- A field that was read stands at most once, and its value was taken. -/
theorem of_fieldOr {α : Type} {fs : List (List Char × Value)} {name : String}
    {read : Value → Option α} {standard x : α} (h : fieldOr fs name read standard = some x) :
    (fs.map Prod.fst).count name.toList ≤ 1 ∧ ∀ w, (name.toList, w) ∈ fs → read w = some x := by
  have number : (fs.map Prod.fst).count name.toList =
      (fs.filter fun f => f.1 == name.toList).length := by
    rw [List.count_eq_countP, List.countP_map, List.countP_eq_length_filter]
    rfl
  have kept {w : Value} (hw : (name.toList, w) ∈ fs) :
      (name.toList, w) ∈ fs.filter fun f => f.1 == name.toList :=
    List.mem_filter.mpr ⟨hw, by simp⟩
  rw [number]
  unfold fieldOr at h
  split at h
  · next none =>
    refine ⟨by simp [none], fun w hw => ?_⟩
    have member := kept hw
    rw [none] at member
    cases member
  · next n v only =>
    refine ⟨by simp [only], fun w hw => ?_⟩
    have member := kept hw
    rw [only, List.mem_singleton] at member
    obtain ⟨rfl, rfl⟩ := Prod.mk.inj member
    exact h
  · cases h

/-- A record whose known fields can all be read. -/
structure Sound (l : Level) (fs : List (List Char × Value)) : Prop where
  once : ∀ name ∈ l.fields, (fs.map Prod.fst).count name.toList ≤ 1
  fit : ∀ name bits w, (name, bits) ∈ l.words → (name.toList, w) ∈ fs → ∃ n, IsWord bits w n
  busy : l = .dispatch → ∀ w, ("pool_size".toList, w) ∈ fs → ¬IsWord 64 w 0

theorem word_of_readUInt64 {w : Value} {n : UInt64} (h : readUInt64 w = some n) :
    ∃ n, IsWord 64 w n := by
  obtain ⟨n, word, -⟩ := Option.map_eq_some_iff.mp h
  exact ⟨n, readWord_eq_some_iff.mp word⟩

theorem word_of_readUInt32 {w : Value} {n : UInt32} (h : readUInt32 w = some n) :
    ∃ n, IsWord 32 w n := by
  obtain ⟨n, word, -⟩ := Option.map_eq_some_iff.mp h
  exact ⟨n, readWord_eq_some_iff.mp word⟩

/-- A number of slots is a word, and not zero. -/
theorem word_of_readPoolSize {w : Value} {n : PoolSize} (h : readPoolSize w = some n) :
    (∃ n, IsWord 64 w n) ∧ ¬IsWord 64 w 0 := by
  obtain ⟨n, word, size⟩ := Option.bind_eq_some_iff.mp h
  refine ⟨⟨n, readWord_eq_some_iff.mp word⟩, fun zero => ?_⟩
  obtain rfl := Option.some.inj ((readWord_eq_some_iff.mpr zero).symm.trans word)
  rw [PoolSize.ofNat?_zero] at size
  cases size

section Sound

variable {v : Value} {fs : List (List Char × Value)}

theorem sound_timeouts {t : Timeouts} (h : readTimeouts Extensions.none v = some t)
    (record : IsRecord "ClientTimeouts" v fs) : Sound .timeouts fs := by
  simp only [readTimeouts, fieldsOf_eq_some_iff.mpr record, Option.bind_eq_bind,
    Option.bind_some, Option.bind_eq_some_iff] at h
  obtain ⟨_, connect, _, ehlo, _, auth, _, mailFrom, _, rcptTo, _, data, _, quit, -⟩ := h
  have read : ∀ name ∈ Level.timeouts.fields, ∃ d n, fieldOr fs name readUInt64 d = some n := by
    simp only [Level.fields, List.forall_mem_cons]
    exact ⟨⟨_, _, connect⟩, ⟨_, _, ehlo⟩, ⟨_, _, auth⟩, ⟨_, _, mailFrom⟩, ⟨_, _, rcptTo⟩,
      ⟨_, _, data⟩, ⟨_, _, quit⟩, nofun⟩
  have words : ∀ f ∈ Level.timeouts.words, f.1 ∈ Level.timeouts.fields ∧ f.2 = 64 := by decide
  refine ⟨fun name known => ?_, fun name bits w word member => ?_, nofun⟩
  · obtain ⟨d, n, h⟩ := read name known
    exact (of_fieldOr h).1
  · obtain ⟨known, rfl⟩ := words _ word
    obtain ⟨d, n, h⟩ := read name known
    exact word_of_readUInt64 ((of_fieldOr h).2 w member)

theorem sound_preferences {p : Preferences} (h : readPreferences Extensions.none v = some p)
    (record : IsRecord "SmtpPreferences" v fs) : Sound .preferences fs := by
  simp only [readPreferences, fieldsOf_eq_some_iff.mpr record, Option.bind_eq_bind,
    Option.bind_some, Option.bind_eq_some_iff] at h
  obtain ⟨_, caStore, _, server, _, port, _, username, _, password, _, tls, -⟩ := h
  refine ⟨?_, fun name bits w word member => ?_, nofun⟩
  · simp only [Level.fields, List.forall_mem_cons]
    exact ⟨(of_fieldOr caStore).1, (of_fieldOr server).1, (of_fieldOr port).1,
      (of_fieldOr username).1, (of_fieldOr password).1, (of_fieldOr tls).1, nofun⟩
  · obtain ⟨rfl, rfl⟩ := Prod.mk.inj (List.mem_singleton.mp word)
    exact word_of_readUInt32 ((of_fieldOr port).2 w member)

theorem sound_dispatch {d : DispatchSettings} (h : readDispatch Extensions.none v = some d)
    (record : IsRecord "DispatchConfig" v fs) : Sound .dispatch fs ∧
      ∀ w, ("timeouts".toList, w) ∈ fs → ∃ t, readTimeouts Extensions.none w = some t := by
  simp only [readDispatch, fieldsOf_eq_some_iff.mpr record, Option.bind_eq_bind,
    Option.bind_some, Option.bind_eq_some_iff] at h
  obtain ⟨_, poolSize, _, pollTimeout, t, timeouts, -⟩ := h
  have size {w : Value} (member : ("pool_size".toList, w) ∈ fs) :=
    word_of_readPoolSize ((of_fieldOr poolSize).2 w member)
  refine ⟨⟨?_, fun name bits w word member => ?_, fun _ w member => (size member).2⟩,
    fun w member => ⟨t, (of_fieldOr timeouts).2 w member⟩⟩
  · simp only [Level.fields, List.forall_mem_cons]
    exact ⟨(of_fieldOr poolSize).1, (of_fieldOr pollTimeout).1, (of_fieldOr timeouts).1, nofun⟩
  · simp only [Level.words, List.mem_cons, Prod.mk.injEq, List.not_mem_nil, or_false] at word
    rcases word with ⟨rfl, rfl⟩ | ⟨rfl, rfl⟩
    · exact (size member).1
    · exact word_of_readUInt64 ((of_fieldOr pollTimeout).2 w member)

theorem sound_settings {s : Settings} (h : readSettings Extensions.none v = some s)
    (record : IsRecord "HeraldConfig" v fs) : Sound .settings fs ∧
      (∀ w, ("smtp".toList, w) ∈ fs → ∃ p, readPreferences Extensions.none w = some p) ∧
      ∀ w, ("dispatch".toList, w) ∈ fs → ∃ d, readDispatch Extensions.none w = some d := by
  simp only [readSettings, fieldsOf_eq_some_iff.mpr record, Option.bind_eq_bind,
    Option.bind_some, Option.bind_eq_some_iff] at h
  obtain ⟨p, smtp, d, dispatch, -⟩ := h
  refine ⟨⟨?_, nofun, nofun⟩, fun w member => ⟨p, (of_fieldOr smtp).2 w member⟩,
    fun w member => ⟨d, (of_fieldOr dispatch).2 w member⟩⟩
  simp only [Level.fields, List.forall_mem_cons]
  exact ⟨(of_fieldOr smtp).1, (of_fieldOr dispatch).1, nofun⟩

/-- Every record that holds settings was read, if they were. -/
theorem Holds.sound {l : Level} (h : Holds v l fs) {s : Settings}
    (read : readSettings Extensions.none v = some s) : Sound l fs := by
  have inner {fs : List (List Char × Value)} (h : Holds v .dispatch fs) : Sound .dispatch fs ∧
      ∀ w, ("timeouts".toList, w) ∈ fs → ∃ t, readTimeouts Extensions.none w = some t := by
    obtain _ | _ | ⟨⟨record⟩, member, record'⟩ := h
    obtain ⟨d, read⟩ := (sound_settings read record).2.2 _ member
    exact sound_dispatch read record'
  cases h with
  | settings record => exact (sound_settings read record).1
  | preferences outer member record =>
    obtain ⟨record'⟩ := outer
    obtain ⟨p, read⟩ := (sound_settings read record').2.1 _ member
    exact sound_preferences read record
  | dispatch outer member record => exact (inner (.dispatch outer member record)).1
  | timeouts outer member record =>
    obtain ⟨t, read⟩ := (inner outer).2 _ member
    exact sound_timeouts read record

end Sound

theorem readSettings_faulty {v : Value} (h : Faulty v) :
    readSettings Extensions.none v = none := by
  rw [Option.eq_none_iff_forall_ne_some]
  intro s read
  cases h with
  | twice holds known more => exact absurd ((holds.sound read).once _ known) (by omega)
  | unfit holds word member other =>
    obtain ⟨n, fits⟩ := (holds.sound read).fit _ _ _ word member
    exact other n fits
  | idle holds member zero => exact (holds.sound read).busy rfl _ member zero

/-- **A document that states a part of the settings is read as the standard ones with that part
replaced, and a faulty one is malformed.** -/
theorem ofRon_partial (document : String) (v : Value) :
    (Spells false document.toList v → ∀ p : Part, p.Stated v →
      ofRon document = .ok (p.over standard)) ∧
    (Spells true document.toList v → Faulty v → ofRon document = .error .malformed) := by
  constructor
  · intro spells p stated
    rcases document_spells spells with read | ⟨refuses, -⟩
    · rw [ofRon, read]
      simp only [readSettings_stated stated]
    · cases refuses
  · intro spells faulty
    rcases document_spells spells with read | ⟨-, none⟩
    · rw [ofRon, read]
      simp only [readSettings_faulty faulty]
    · rw [ofRon, none]

/-! ### Two documents -/

/-- What holds no other value may stand on any level. -/
theorem writes_leaf {wide : Bool} {s : List Char} {v : Value}
    (h : ∀ nested Item Content, Form wide nested Item Content s v) (depth : Nat) :
    Writes wide depth s v := by
  match depth with
  | 0 => exact h _ _ _
  | 1 => exact h _ _ _
  | _ + 2 => exact h _ _ _

/-- A document with a field that is not known and a comment. -/
def crowded : String := "(dispatch: (pool_size: 0x8,), /* look */ theme: [dark, 1.5])\n"

def crowdedValue : Value :=
  .record none [("dispatch".toList, .record none [("pool_size".toList, .integer ⟨false, 8, none⟩)]),
    ("theme".toList, .list [.word "dark".toList, .scalar])]

/-- The part that it states. -/
def eightSlots : Part := ⟨none, some ⟨some ⟨8, by decide, by decide⟩, none, none⟩⟩

/-- A document that asks for no slots. -/
def idle : String := "(dispatch:(pool_size:0))"

def idleValue : Value :=
  .record none [("dispatch".toList, .record none [("pool_size".toList, .integer ⟨false, 0, none⟩)])]

theorem named_dispatch : FieldName "dispatch".toList "dispatch".toList :=
  ⟨_, named_plain (by decide), rfl⟩

theorem named_poolSize : FieldName "pool_size".toList "pool_size".toList :=
  ⟨_, named_plain (by decide), rfl⟩

theorem spells_crowded : Spells false crowded.toList crowdedValue := by
  have theme : FieldName "theme".toList "theme".toList :=
    ⟨_, named_plain (by decide), rfl⟩
  have space : Spacing [' '] := .space (by decide) .nil
  have look : Spacing " /* look */ ".toList := by
    have other {c : Char} {s : List Char} (mark : c ≠ '/' ∧ c ≠ '*') (h : Comment 0 s) :
        Comment 0 (c :: s) := by
      refine .char ?_ ?_ h
      · exact fun opens => mark.1 (List.cons_prefix_cons.mp opens).1.symm
      · exact fun closes => mark.2 (List.cons_prefix_cons.mp closes).1.symm
    have comment : Comment 0 " look */".toList :=
      other (by decide) (other (by decide) (other (by decide) (other (by decide)
        (other (by decide) (other (by decide) .done)))))
    exact .space (by decide) (.block comment (.space (by decide) .nil))
  have eight : Writes false 124 "0x8".toList (.integer ⟨false, 8, none⟩) :=
    writes_leaf (fun _ _ _ => .integer (m := ⟨.none, .hexadecimal, ['8'], none⟩)
      ⟨⟨'8', [], rfl, by decide⟩, by decide, nofun⟩ (by decide)) 124
  have dark : Writes false 124 "dark".toList (.word "dark".toList) :=
    writes_leaf (fun _ _ _ => .word (i := ⟨false, _⟩) (named_plain (by decide))
      fun _ => by decide) 124
  have half : Writes false 124 "1.5".toList .scalar := by
    refine writes_leaf (fun _ _ _ => .fraction ?_) 124
    have one : IsRun ['1'] := ⟨'1', [], rfl, by decide, nofun⟩
    have five : IsRun ['5'] := ⟨'5', [], rfl, by decide, nofun⟩
    refine .finite (s := .none) (f := []) (.both one five) .none (by decide) fun whole => ?_
    have point := whole.isDigitOrGap '.' (by decide)
    exact absurd point (by decide)
  have slots : Writes false 126 "(pool_size: 0x8,)".toList
      (.record none [("pool_size".toList, .integer ⟨false, 8, none⟩)]) :=
    .record rfl .none (.cons .nil (.mk named_poolSize .nil space eight) .nil (.nil .nil))
  have themes : Writes false 126 "[dark, 1.5]".toList (.list [.word "dark".toList, .scalar]) :=
    .list rfl (.cons .nil dark .nil (.last space half .nil))
  have whole : Writes false 128 "(dispatch: (pool_size: 0x8,), /* look */ theme: [dark, 1.5])".toList
      crowdedValue :=
    .record rfl .none (.cons .nil (.mk named_dispatch .nil space slots) .nil
      (.last look (.mk theme .nil space themes) .nil))
  have text : crowded.toList =
      [] ++ ("(dispatch: (pool_size: 0x8,), /* look */ theme: [dark, 1.5])".toList ++ ['\n']) := by
    decide
  rw [text]
  exact .mk .nil whole (.whole (.space (by decide) .nil))

theorem spells_idle : Spells true idle.toList idleValue := by
  have zero : Writes true 124 "0".toList (.integer ⟨false, 0, none⟩) :=
    writes_leaf (fun _ _ _ => .integer (m := ⟨.none, .decimal, ['0'], none⟩)
      ⟨⟨'0', [], rfl, by decide⟩, by decide, nofun⟩ (by decide)) 124
  have slots : Writes true 126 "(pool_size:0)".toList
      (.record none [("pool_size".toList, .integer ⟨false, 0, none⟩)]) :=
    .record rfl .none (.last .nil (.mk named_poolSize .nil .nil zero) .nil)
  have whole : Writes true 128 idle.toList idleValue :=
    .record rfl .none (.last .nil (.mk named_dispatch .nil .nil slots) .nil)
  have text : idle.toList = [] ++ (idle.toList ++ []) := by simp
  rw [text]
  exact .mk .nil whole (.whole .nil)

/-- A document may state the number of slots alone, but not that there are none. -/
theorem ofRon_crowded : ofRon crowded = .ok (eightSlots.over standard) ∧
    ofRon idle = .error .malformed := by
  have slots : eightSlots.Stated crowdedValue := by
    have eight : IsPoolSize (.integer ⟨false, 8, none⟩) ⟨8, by decide, by decide⟩ :=
      .mk (.inl rfl) nofun (by decide)
    have size : DispatchSettings.Part.Listed
        [("pool_size".toList, .integer ⟨false, 8, none⟩)] ⟨some ⟨8, _, _⟩, none, none⟩ :=
      ⟨.once (List.nil_append _).symm nofun eight, .absent (by decide), .absent (by decide)⟩
    exact ⟨_, .fields (.inl rfl), .absent (by decide),
      .once (List.nil_append _).symm (by decide) ⟨_, .fields (.inl rfl), size⟩⟩
  have none : Faulty idleValue := by
    refine .idle (.dispatch (.settings (.fields (.inl rfl))) List.mem_cons_self
      (.fields (.inl rfl))) List.mem_cons_self ?_
    exact .mk (.inl rfl) nofun (by decide)
  exact ⟨(ofRon_partial crowded crowdedValue).1 spells_crowded eightSlots slots,
    (ofRon_partial idle idleValue).2 spells_idle none⟩

end Settings

end Outbox
