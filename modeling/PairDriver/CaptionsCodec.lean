/-
This file models the configuration line the captions module of the driver sends to
its host: `BuildHostConfigCommand` writes it, and `DispatchControlMessage` reads
it and applies one field after the other. Strings are bytes; the char arrays of
the request are terminated, as the request promises.

The fields of a text are a grammar of their own here, `Splits`: a key up to the
first '=', a value up to the next ',', and what is left when no '=' follows. The
reader applies the fields of the only split there is. From this come exact
conditions: for the round trip, that no string holds a ',' or ends a line; for
other messages, that the numbers convert and that a message with a left-over sets
nothing. The last sections run the inputs that fail.
-/

import PairDriver.Decimal

namespace PairDriver.Captions

abbrev Text := List UInt8

def captionsLangLen : Nat := 16
def captionsAddrLen : Nat := 48

/-- A char array of the request, terminated as the request promises. -/
structure CharArray (size : Nat) where
  bytes : List UInt8
  length_eq : bytes.length = size
  terminated : 0 ∈ bytes

def CharArray.text {size : Nat} (field : CharArray size) : Text :=
  cString field.bytes

/-- The fields of `protocol::CaptionsConfig` the driver forwards. -/
structure CaptionsConfig where
  mode : UInt8
  transcriptLogging : UInt8
  chatboxPort : UInt16
  sourceLang : CharArray captionsLangLen
  targetLang : CharArray captionsLangLen
  chatboxAddress : CharArray captionsAddrLen

/-- The configuration of the host, with the two paths no message sets. -/
structure HostConfig where
  sourceLang : Text := ascii "auto"
  targetLang : Text := []
  chatboxAddress : Text := ascii "/chatbox/input"
  chatboxPort : UInt16 := 9000
  transcriptLogging : Bool := false
  mode : Int := 0
  whisperModelPath : Text := []
  sileroModelPath : Text := []
deriving DecidableEq

/-! ### The writer -/

/-- The bytes of the separators and of the line ends. -/
def equalsSign : UInt8 := 61
def comma : UInt8 := 44
def newline : UInt8 := 10
def carriageReturn : UInt8 := 13

def buildHostConfigCommand (config : CaptionsConfig) : Text :=
  ascii "config:" ++
    ascii "src=" ++ config.sourceLang.text ++
    ascii ",tgt=" ++ config.targetLang.text ++
    ascii ",mode=" ++ decimalText config.mode.toNat ++
    ascii ",addr=" ++ config.chatboxAddress.text ++
    ascii ",port=" ++ decimalText config.chatboxPort.toNat ++
    ascii ",log=" ++ decimalText config.transcriptLogging.toNat ++
    ascii "\n"

/-! ### The reader -/

inductive Key where
  | src
  | tgt
  | mode
  | addr
  | port
  | log
deriving DecidableEq

/-- The key a text names, if it is one of the six. -/
def Key.ofText (text : Text) : Option Key :=
  if text = ascii "src" then some .src
  else if text = ascii "tgt" then some .tgt
  else if text = ascii "mode" then some .mode
  else if text = ascii "addr" then some .addr
  else if text = ascii "port" then some .port
  else if text = ascii "log" then some .log
  else none

def isLineEnd (character : UInt8) : Bool :=
  character = newline || character = carriageReturn

/-- The value without the line ends at its end. -/
def trimmed (value : Text) : Text :=
  value.rdropWhile isLineEnd

/-- Applies one field; an unknown key is skipped. -/
def applyField (host : HostConfig) (key value : Text) : Except StoiError HostConfig :=
  match Key.ofText key with
  | some .src => .ok { host with sourceLang := value }
  | some .tgt => .ok { host with targetLang := value }
  | some .mode => (stoi value).map fun mode => { host with mode := mode }
  | some .addr => .ok { host with chatboxAddress := value }
  | some .port => (stoi value).map fun port => { host with chatboxPort := UInt16.ofInt port }
  | some .log => .ok { host with transcriptLogging := value ≠ ascii "0" }
  | none => .ok host

/-- What the reader leaves behind: the configuration, and the exception it threw. -/
structure Dispatched where
  config : HostConfig
  thrown : Option StoiError := none
deriving DecidableEq

/-- The loop over the body of a message, from the text that is still to be read. -/
def dispatchFields (host : HostConfig) (text : Text) : Dispatched :=
  if equalsSign ∈ text then
    let key := text.takeWhile (· ≠ equalsSign)
    let afterEquals := (text.dropWhile (· ≠ equalsSign)).tail
    let value := trimmed (afterEquals.takeWhile (· ≠ comma))
    match applyField host key value with
    | .error thrown => { config := host, thrown := some thrown }
    | .ok applied =>
      match _next : afterEquals.dropWhile (· ≠ comma) with
      | [] => { config := applied }
      | _ :: rest => dispatchFields applied rest
  else { config := host }
termination_by text.length
decreasing_by
  have sublist : (_ :: rest).Sublist text := _next ▸
    ((List.dropWhile_sublist _).trans (List.tail_sublist _)).trans (List.dropWhile_sublist _)
  exact sublist.length_le

def dispatchControlMessage (host : HostConfig) (message : Text) : Dispatched :=
  if ascii "config:" <+: message then
    dispatchFields host (message.drop (ascii "config:").length)
  else { config := host }

/-! ### The grammar of fields -/

/-- The fields of a text, and what is left of it when no '=' follows. -/
inductive Splits : Text → List (Text × Text) → Text → Prop where
  | stop {left : Text} : equalsSign ∉ left → Splits left [] left
  | last {key value : Text} : equalsSign ∉ key → comma ∉ value →
      Splits (key ++ equalsSign :: value) [(key, value)] []
  | field {key value rest : Text} {fields : List (Text × Text)} {left : Text} :
      equalsSign ∉ key → comma ∉ value → Splits rest fields left →
      Splits (key ++ equalsSign :: (value ++ comma :: rest)) ((key, value) :: fields) left

/-- Applies the fields in their order, up to the first that throws. -/
def applyFields (host : HostConfig) : List (Text × Text) → Dispatched
  | [] => { config := host }
  | (key, value) :: rest =>
    match applyField host key (trimmed value) with
    | .error thrown => { config := host, thrown := some thrown }
    | .ok applied => applyFields applied rest

theorem takeWhile_ne_append {separator : UInt8} {before : Text} (absent : separator ∉ before)
    (after : Text) :
    (before ++ separator :: after).takeWhile (· ≠ separator) = before := by
  rw [List.takeWhile_append_of_pos, List.takeWhile_cons_of_neg, List.append_nil]
  · simp only [ne_eq, not_true_eq_false, decide_false, Bool.false_eq_true, not_false_eq_true]
  · intro character member
    exact decide_eq_true fun same => absent (same ▸ member)

theorem dropWhile_ne_append {separator : UInt8} {before : Text} (absent : separator ∉ before)
    (after : Text) :
    (before ++ separator :: after).dropWhile (· ≠ separator) = separator :: after := by
  rw [List.dropWhile_append_of_pos, List.dropWhile_cons_of_neg]
  · simp only [ne_eq, not_true_eq_false, decide_false, Bool.false_eq_true, not_false_eq_true]
  · intro character member
    exact decide_eq_true fun same => absent (same ▸ member)

/-- A text with the separator is what stands before the first one, the separator and the rest. -/
theorem exists_first {separator : UInt8} {text : Text} (present : separator ∈ text) :
    ∃ before after, separator ∉ before ∧ text = before ++ separator :: after := by
  obtain ⟨before, after, split, absent⟩ := List.eq_append_cons_of_mem present
  exact ⟨before, after, absent, split⟩

/-- A text that starts with a key has a split whose first field is the one of that key. -/
theorem exists_splits_cons {key : Text} (named : equalsSign ∉ key) {after : Text}
    (later : ∀ rest, rest.length < after.length → ∃ fields left, Splits rest fields left) :
    ∃ value fields left, Splits (key ++ equalsSign :: after) ((key, value) :: fields) left := by
  by_cases more : comma ∈ after
  · obtain ⟨value, rest, absent, rfl⟩ := exists_first more
    have shorter : rest.length < (value ++ comma :: rest).length := by
      rw [List.length_append, List.length_cons]
      omega
    obtain ⟨fields, left, split⟩ := later rest shorter
    exact ⟨value, fields, left, .field named absent split⟩
  · exact ⟨after, [], [], .last named more⟩

theorem exists_splits (text : Text) : ∃ fields left, Splits text fields left := by
  induction length : text.length using Nat.strong_induction_on generalizing text with
  | _ size inductionHypothesis =>
    by_cases more : equalsSign ∈ text
    · obtain ⟨key, after, named, rfl⟩ := exists_first more
      have later : ∀ rest : Text, rest.length < after.length →
          ∃ fields left, Splits rest fields left := by
        intro rest shorter
        refine inductionHypothesis rest.length ?_ rest rfl
        rw [← length, List.length_append, List.length_cons]
        omega
      obtain ⟨value, fields, left, split⟩ := exists_splits_cons named later
      exact ⟨(key, value) :: fields, left, split⟩
    · exact ⟨[], text, .stop more⟩

/-- The reader applies the fields of the split. -/
theorem dispatchFields_of_splits {text left : Text} {fields : List (Text × Text)}
    (split : Splits text fields left) (host : HostConfig) :
    dispatchFields host text = applyFields host fields := by
  induction split generalizing host with
  | stop absent =>
    rw [dispatchFields, if_neg absent]
    rfl
  | @last key value named absent =>
    have present : equalsSign ∈ key ++ equalsSign :: value :=
      List.mem_append_right key List.mem_cons_self
    have whole : value.takeWhile (· ≠ comma) = value :=
      List.takeWhile_eq_self_iff.mpr fun character member =>
        decide_eq_true fun same => absent (same ▸ member)
    have none : value.dropWhile (· ≠ comma) = [] :=
      List.dropWhile_eq_nil_iff.mpr fun character member =>
        decide_eq_true fun same => absent (same ▸ member)
    rw [dispatchFields, if_pos present]
    simp only [takeWhile_ne_append named, dropWhile_ne_append named, List.tail_cons, applyFields]
    rw [whole]
    split
    · rfl
    · split
      · rfl
      · rename_i rest next
        rw [dropWhile_ne_append named, List.tail_cons, none] at next
        cases next
  | @field key value rest fields left named absent _ inductionHypothesis =>
    have present : equalsSign ∈ key ++ equalsSign :: (value ++ comma :: rest) :=
      List.mem_append_right key List.mem_cons_self
    rw [dispatchFields, if_pos present]
    simp only [takeWhile_ne_append named, dropWhile_ne_append named, List.tail_cons, applyFields]
    rw [takeWhile_ne_append absent]
    split
    · rfl
    · split
      · rename_i next
        rw [dropWhile_ne_append named, List.tail_cons, dropWhile_ne_append absent] at next
        cases next
      · rename_i head tail next
        rw [dropWhile_ne_append named, List.tail_cons, dropWhile_ne_append absent] at next
        obtain ⟨rfl, rfl⟩ := List.cons.inj next
        exact inductionHypothesis _

/-! ### Settings -/

/-- The setting of a key, a text or a number. -/
def HostConfig.get (host : HostConfig) : Key → Text ⊕ Int
  | .src => .inl host.sourceLang
  | .tgt => .inl host.targetLang
  | .mode => .inr host.mode
  | .addr => .inl host.chatboxAddress
  | .port => .inr host.chatboxPort.toNat
  | .log => .inr (if host.transcriptLogging then 1 else 0)

/-- The setting a value stands for. -/
def Key.setting (key : Key) (value : Text) : Text ⊕ Int :=
  match key with
  | .mode => .inr ((stoi value).toOption.getD 0)
  | .port => .inr (UInt16.ofInt ((stoi value).toOption.getD 0)).toNat
  | .log => .inr (if value ≠ ascii "0" then 1 else 0)
  | .src | .tgt | .addr => .inl value

/-- A number field holds a number. -/
def Converts (field : Text × Text) : Prop :=
  Key.ofText field.1 = some .mode ∨ Key.ofText field.1 = some .port →
    ∃ number, stoi (trimmed field.2) = .ok number

theorem applyField_unknown {key : Text} (unknown : Key.ofText key = none) (host : HostConfig)
    (value : Text) : applyField host key value = .ok host := by
  rw [applyField, unknown]

/-- A field that is applied sets its own key and no other. -/
theorem applyField_get {host applied : HostConfig} {key value : Text}
    (ok : applyField host key value = .ok applied) (wanted : Key) :
    applied.get wanted =
      if Key.ofText key = some wanted then wanted.setting value else host.get wanted := by
  cases named : Key.ofText key with
  | none =>
    rw [applyField_unknown named] at ok
    obtain rfl := Except.ok.inj ok
    rfl
  | some known =>
    rw [applyField, named] at ok
    cases known with
    | src | tgt | addr | log =>
      obtain rfl := Except.ok.inj ok
      cases wanted <;> simp [HostConfig.get, Key.setting]
    | mode | port =>
      cases read : stoi value with
      | error thrown =>
        rw [read] at ok
        cases ok
      | ok number =>
        rw [read] at ok
        obtain rfl := Except.ok.inj ok
        cases wanted <;> simp [HostConfig.get, Key.setting, read, Except.toOption]

theorem applyField_of_converts {key value : Text} (converts : Converts (key, value))
    (host : HostConfig) : ∃ applied, applyField host key (trimmed value) = .ok applied := by
  unfold applyField
  cases named : Key.ofText key with
  | none => exact ⟨_, rfl⟩
  | some known =>
    cases known with
    | src | tgt | addr | log => exact ⟨_, rfl⟩
    | mode =>
      obtain ⟨number, read⟩ := converts (Or.inl named)
      exact ⟨_, by rw [read]; rfl⟩
    | port =>
      obtain ⟨number, read⟩ := converts (Or.inr named)
      exact ⟨_, by rw [read]; rfl⟩

theorem applyField_ok_converts {host applied : HostConfig} {key value : Text}
    (ok : applyField host key (trimmed value) = .ok applied) : Converts (key, value) := by
  intro number
  cases read : stoi (trimmed value) with
  | ok found => exact ⟨found, rfl⟩
  | error thrown =>
    unfold applyField at ok
    rcases number with named | named
    · rw [named, read] at ok
      cases ok
    · rw [named, read] at ok
      cases ok

/-! ### Running the fields -/

/-- The fields throw nothing exactly when their numbers convert. -/
theorem applyFields_thrown (fields : List (Text × Text)) (host : HostConfig) :
    (applyFields host fields).thrown = none ↔ ∀ field ∈ fields, Converts field := by
  induction fields generalizing host with
  | nil => exact ⟨fun _ _ member => (List.not_mem_nil member).elim, fun _ => rfl⟩
  | cons head rest inductionHypothesis =>
    obtain ⟨key, value⟩ := head
    rw [List.forall_mem_cons, applyFields]
    cases outcome : applyField host key (trimmed value) with
    | error thrown =>
      refine ⟨fun none => (Option.some_ne_none _ none).elim, ?_⟩
      rintro ⟨converts, -⟩
      obtain ⟨applied, ok⟩ := applyField_of_converts converts host
      rw [outcome] at ok
      cases ok
    | ok applied =>
      dsimp only
      rw [inductionHypothesis applied]
      exact ⟨fun later => ⟨applyField_ok_converts outcome, later⟩, fun both => both.2⟩

/-- Fields of unknown keys change nothing. -/
theorem applyFields_unknown {fields : List (Text × Text)}
    (unknown : ∀ field ∈ fields, Key.ofText field.1 = none) (host : HostConfig) :
    applyFields host fields = { config := host } := by
  induction fields with
  | nil => rfl
  | cons head rest inductionHypothesis =>
    obtain ⟨key, value⟩ := head
    rw [List.forall_mem_cons] at unknown
    rw [applyFields, applyField_unknown unknown.1]
    exact inductionHypothesis unknown.2

/-- Two hosts that agree on a key still do after the same fields, and come to agree on every key
that is among them. -/
theorem applyFields_agree {fields : List (Text × Text)} (first second : HostConfig) {wanted : Key}
    (converts : ∀ field ∈ fields, Converts field)
    (agreed : first.get wanted = second.get wanted ∨
      ∃ field ∈ fields, Key.ofText field.1 = some wanted) :
    (applyFields first fields).config.get wanted = (applyFields second fields).config.get wanted := by
  induction fields generalizing first second with
  | nil =>
    rcases agreed with same | ⟨field, member, -⟩
    · exact same
    · cases member
  | cons head rest inductionHypothesis =>
    obtain ⟨key, value⟩ := head
    rw [List.forall_mem_cons] at converts
    obtain ⟨firstApplied, firstOk⟩ := applyField_of_converts converts.1 first
    obtain ⟨secondApplied, secondOk⟩ := applyField_of_converts converts.1 second
    rw [applyFields, applyFields, firstOk, secondOk]
    refine inductionHypothesis firstApplied secondApplied converts.2 ?_
    rw [applyField_get firstOk, applyField_get secondOk]
    by_cases named : Key.ofText key = some wanted
    · rw [if_pos named, if_pos named]
      exact Or.inl rfl
    · rw [if_neg named, if_neg named]
      refine agreed.imp_right ?_
      rintro ⟨field, member, known⟩
      rcases List.mem_cons.mp member with rfl | later
      · exact absurd known named
      · exact ⟨field, later, known⟩

/-! ### Messages -/

/-- The text after the tag of a configuration message. -/
def Body (message body : Text) : Prop :=
  message = ascii "config:" ++ body

/-- The message is read to its end: it has the tag, nothing is left over, the numbers convert. -/
def Complete (message : Text) : Prop :=
  ∃ body, Body message body ∧ ∀ fields left, Splits body fields left →
    left = [] ∧ ∀ field ∈ fields, Converts field

/-- In a message with the tag the numbers convert, and a left-over follows unknown keys only. -/
def Harmless (message : Text) : Prop :=
  ∀ body fields left, Body message body → Splits body fields left →
    (∀ field ∈ fields, Converts field) ∧
      (left = [] ∨ ∀ field ∈ fields, Key.ofText field.1 = none)

theorem dispatch_of_body {message body : Text} (tagged : Body message body) (host : HostConfig) :
    dispatchControlMessage host message = dispatchFields host body := by
  subst tagged
  rw [dispatchControlMessage, if_pos (List.prefix_append _ _), List.drop_left]

theorem dispatch_of_no_body {message : Text} (untagged : ¬∃ body, Body message body)
    (host : HostConfig) : dispatchControlMessage host message = { config := host } := by
  rw [dispatchControlMessage, if_neg]
  rintro ⟨body, same⟩
  exact untagged ⟨body, same.symm⟩

/-- Two hosts that agree on no key. -/
def quietHost : HostConfig := {}

def loudHost : HostConfig :=
  { sourceLang := ascii "en"
    targetLang := ascii "de"
    chatboxAddress := []
    chatboxPort := 1
    transcriptLogging := true
    mode := 1 }

theorem quietHost_ne_loudHost (key : Key) : quietHost.get key ≠ loudHost.get key := by
  cases key <;> decide

/-- Fields that change no host name no key. -/
theorem unknown_of_unchanged {fields : List (Text × Text)}
    (converts : ∀ field ∈ fields, Converts field)
    (unchanged : ∀ host, (applyFields host fields).config = host) :
    ∀ field ∈ fields, Key.ofText field.1 = none := by
  intro field member
  cases known : Key.ofText field.1 with
  | none => rfl
  | some wanted =>
    have agree := applyFields_agree quietHost loudHost converts (Or.inr ⟨field, member, known⟩)
    rw [unchanged, unchanged] at agree
    exact absurd agree (quietHost_ne_loudHost wanted)

theorem dispatch_safe_iff (message : Text) :
    (∀ host, (dispatchControlMessage host message).thrown = none ∧
      (¬Complete message → (dispatchControlMessage host message).config = host)) ↔
    Harmless message := by
  constructor
  · intro safe body fields left tagged split
    have applied : ∀ host, dispatchControlMessage host message = applyFields host fields := by
      intro host
      rw [dispatch_of_body tagged, dispatchFields_of_splits split]
    have converts := (applyFields_thrown fields quietHost).mp (applied quietHost ▸ (safe quietHost).1)
    refine ⟨converts, ?_⟩
    by_cases ended : left = []
    · exact Or.inl ended
    · refine Or.inr (unknown_of_unchanged converts fun host => ?_)
      rw [← applied host]
      refine (safe host).2 ?_
      rintro ⟨other, sameTag, whole⟩
      obtain rfl : body = other := List.append_cancel_left (tagged.symm.trans sameTag)
      exact ended (whole fields left split).1
  · intro harmless host
    by_cases tagged : ∃ body, Body message body
    · obtain ⟨body, tagged⟩ := tagged
      obtain ⟨fields, left, split⟩ := exists_splits body
      rw [dispatch_of_body tagged, dispatchFields_of_splits split]
      refine ⟨(applyFields_thrown fields host).mpr (harmless body fields left tagged split).1, ?_⟩
      intro incomplete
      by_contra changed
      refine incomplete ⟨body, tagged, ?_⟩
      intro fields' left' split'
      obtain ⟨converts, ended | unknown⟩ := harmless body fields' left' tagged split'
      · exact ⟨ended, converts⟩
      · rw [← dispatchFields_of_splits split, dispatchFields_of_splits split',
          applyFields_unknown unknown] at changed
        exact (changed rfl).elim
    · rw [dispatch_of_no_body tagged]
      exact ⟨rfl, fun _ => rfl⟩

/-! ### Clean texts -/

/-- A text that holds no separator of fields and does not end a line. -/
def Clean (text : Text) : Prop :=
  comma ∉ text ∧ ∀ last ∈ text.getLast?, last ≠ newline ∧ last ≠ carriageReturn

theorem isLineEnd_eq_false {character : UInt8} :
    isLineEnd character = false ↔ character ≠ newline ∧ character ≠ carriageReturn := by
  simp only [isLineEnd, Bool.or_eq_false_iff, decide_eq_false_iff_not, ne_eq]

theorem trimmed_of_clean {text : Text} (clean : Clean text) : trimmed text = text := by
  unfold trimmed
  rw [List.rdropWhile_eq_self_iff]
  intro nonempty
  rw [Bool.not_eq_true]
  exact isLineEnd_eq_false.mpr (clean.2 _ (List.getLast?_eq_getLast_of_ne_nil nonempty))

theorem clean_trimmed {text : Text} (absent : comma ∉ text) : Clean (trimmed text) := by
  refine ⟨fun member => absent ((List.rdropWhile_prefix _ text).subset member), ?_⟩
  intro last found
  obtain ⟨nonempty, rfl⟩ := List.mem_getLast?_eq_getLast found
  have notEnd := List.rdropWhile_last_not isLineEnd text nonempty
  exact isLineEnd_eq_false.mp (Bool.eq_false_iff.mpr notEnd)

/-- The setting is no text, or a clean one. -/
def CleanSetting (setting : Text ⊕ Int) : Prop :=
  ∀ text, setting = .inl text → Clean text

theorem cleanSetting_of_value (key : Key) {value : Text} (absent : comma ∉ value) :
    CleanSetting (key.setting (trimmed value)) := by
  intro text same
  cases key with
  | src | tgt | addr =>
    obtain rfl := Sum.inl.inj same
    exact clean_trimmed absent
  | mode | port | log => cases same

theorem values_of_splits {text left : Text} {fields : List (Text × Text)}
    (split : Splits text fields left) : ∀ field ∈ fields, comma ∉ field.2 := by
  induction split with
  | stop _ => exact List.forall_mem_nil _
  | last _ absent => exact List.forall_mem_singleton.mpr absent
  | field _ absent _ inductionHypothesis =>
    exact List.forall_mem_cons.mpr ⟨absent, inductionHypothesis⟩

/-- Fields leave a clean setting clean, and make the setting of every key among them clean that is
not behind a field that throws. -/
theorem applyFields_clean {fields : List (Text × Text)}
    (values : ∀ field ∈ fields, comma ∉ field.2) {host : HostConfig} {wanted : Key}
    (clean : CleanSetting (host.get wanted)) :
    CleanSetting ((applyFields host fields).config.get wanted) := by
  induction fields generalizing host with
  | nil => exact clean
  | cons head rest inductionHypothesis =>
    obtain ⟨key, value⟩ := head
    rw [List.forall_mem_cons] at values
    rw [applyFields]
    split
    · exact clean
    · rename_i applied ok
      refine inductionHypothesis values.2 ?_
      rw [applyField_get ok]
      split
      · exact cleanSetting_of_value wanted values.1
      · exact clean

/-- A text key that no field before it keeps from being set has a clean setting afterwards. -/
theorem applyFields_clean_at {before fields : List (Text × Text)} {key value : Text}
    (values : ∀ field ∈ before ++ (key, value) :: fields, comma ∉ field.2)
    (converts : ∀ field ∈ before, Converts field) {wanted : Key}
    (named : Key.ofText key = some wanted) (text : wanted = .src ∨ wanted = .tgt ∨ wanted = .addr)
    (host : HostConfig) :
    CleanSetting ((applyFields host (before ++ (key, value) :: fields)).config.get wanted) := by
  induction before generalizing host with
  | nil =>
    rw [List.nil_append, List.forall_mem_cons] at values
    have own : Converts (key, value) := by
      intro number
      rw [named] at number
      rcases text with rfl | rfl | rfl <;> simp at number
    obtain ⟨applied, ok⟩ := applyField_of_converts own host
    rw [List.nil_append, applyFields, ok]
    refine applyFields_clean values.2 ?_
    rw [applyField_get ok, if_pos named]
    exact cleanSetting_of_value wanted values.1
  | cons head rest inductionHypothesis =>
    obtain ⟨headKey, headValue⟩ := head
    rw [List.cons_append, List.forall_mem_cons] at values
    rw [List.forall_mem_cons] at converts
    obtain ⟨applied, ok⟩ := applyField_of_converts converts.1 host
    rw [List.cons_append, applyFields, ok]
    exact inductionHypothesis values.2 converts.2 applied

/-! ### The round trip -/

/-- The host's configuration with the values of the request. -/
def HostConfig.requested (host : HostConfig) (config : CaptionsConfig) : HostConfig :=
  { host with
    sourceLang := config.sourceLang.text
    targetLang := config.targetLang.text
    mode := config.mode.toNat
    chatboxAddress := config.chatboxAddress.text
    chatboxPort := config.chatboxPort
    transcriptLogging := config.transcriptLogging ≠ 0 }

def RoundTrips (config : CaptionsConfig) (host : HostConfig) : Prop :=
  dispatchControlMessage host (buildHostConfigCommand config) = { config := host.requested config }

/-- The three strings of the request are clean. -/
structure CleanConfig (config : CaptionsConfig) : Prop where
  source : Clean config.sourceLang.text
  target : Clean config.targetLang.text
  address : Clean config.chatboxAddress.text

/-- The line from its second, third and fourth field on, and the whole line behind the tag. -/
def bodyFromAddress (config : CaptionsConfig) : Text :=
  ascii "addr" ++ equalsSign :: (config.chatboxAddress.text ++ comma ::
    (ascii "port" ++ equalsSign :: (decimalText config.chatboxPort.toNat ++ comma ::
      (ascii "log" ++ equalsSign :: (decimalText config.transcriptLogging.toNat ++ [newline])))))

def bodyFromTarget (config : CaptionsConfig) : Text :=
  ascii "tgt" ++ equalsSign :: (config.targetLang.text ++ comma ::
    (ascii "mode" ++ equalsSign :: (decimalText config.mode.toNat ++ comma ::
      bodyFromAddress config)))

def configBody (config : CaptionsConfig) : Text :=
  ascii "src" ++ equalsSign :: (config.sourceLang.text ++ comma :: bodyFromTarget config)

theorem body_buildHostConfigCommand (config : CaptionsConfig) :
    Body (buildHostConfigCommand config) (configBody config) := by
  have keys : ascii "src=" = ascii "src" ++ [equalsSign] ∧
      ascii ",tgt=" = comma :: (ascii "tgt" ++ [equalsSign]) ∧
      ascii ",mode=" = comma :: (ascii "mode" ++ [equalsSign]) ∧
      ascii ",addr=" = comma :: (ascii "addr" ++ [equalsSign]) ∧
      ascii ",port=" = comma :: (ascii "port" ++ [equalsSign]) ∧
      ascii ",log=" = comma :: (ascii "log" ++ [equalsSign]) ∧ ascii "\n" = [newline] := by
    decide
  obtain ⟨src, tgt, mode, addr, port, log, ending⟩ := keys
  unfold Body buildHostConfigCommand configBody bodyFromTarget bodyFromAddress
  rw [src, tgt, mode, addr, port, log, ending]
  simp only [List.append_assoc, List.cons_append, List.nil_append]

theorem decimalText_no_comma (value : Nat) : comma ∉ decimalText value := by
  intro member
  exact absurd (decimalText_isDigit value comma member) (by decide)

theorem decimalText_clean (value : Nat) : Clean (decimalText value) := by
  refine ⟨decimalText_no_comma value, ?_⟩
  intro last found
  obtain ⟨least, -⟩ := isDigit_range (decimalText_isDigit value last (List.mem_of_mem_getLast? found))
  refine ⟨?_, ?_⟩
  · rintro rfl
    exact absurd least (by decide)
  · rintro rfl
    exact absurd least (by decide)

theorem trimmed_log (value : Nat) : trimmed (decimalText value ++ [newline]) = decimalText value := by
  unfold trimmed
  rw [List.rdropWhile_concat_pos isLineEnd (decimalText value) newline rfl]
  exact trimmed_of_clean (decimalText_clean value)

theorem decimalText_eq_zero_iff (value : Nat) : decimalText value = ascii "0" ↔ value = 0 := by
  constructor
  · intro zero
    rw [← digitsValue_decimalText value, zero]
    rfl
  · rintro rfl
    rfl

theorem ofInt_toNat (port : UInt16) : UInt16.ofInt (port.toNat : Int) = port := by
  rw [← UInt16.toNat_inj, UInt16.ofInt]
  have small := port.toNat_lt
  simp only [UInt16.toNat_ofNat']
  omega

/-- The fields of the line of a clean request. -/
def configFields (config : CaptionsConfig) : List (Text × Text) :=
  [(ascii "src", config.sourceLang.text), (ascii "tgt", config.targetLang.text),
    (ascii "mode", decimalText config.mode.toNat), (ascii "addr", config.chatboxAddress.text),
    (ascii "port", decimalText config.chatboxPort.toNat),
    (ascii "log", decimalText config.transcriptLogging.toNat ++ [newline])]

theorem splits_configBody {config : CaptionsConfig} (clean : CleanConfig config) :
    Splits (configBody config) (configFields config) [] := by
  have ending : comma ∉ decimalText config.transcriptLogging.toNat ++ [newline] := by
    rw [List.mem_append, List.mem_singleton, not_or]
    exact ⟨decimalText_no_comma _, by decide⟩
  exact .field (by decide) clean.source.1 <| .field (by decide) clean.target.1 <|
    .field (by decide) (decimalText_no_comma _) <| .field (by decide) clean.address.1 <|
    .field (by decide) (decimalText_no_comma _) <| .last (by decide) ending

theorem applyFields_configFields {config : CaptionsConfig} (clean : CleanConfig config)
    (host : HostConfig) :
    applyFields host (configFields config) = { config := host.requested config } := by
  have mode := stoi_decimalText config.mode.toNat (by have := config.mode.toNat_lt; omega)
  have port := stoi_decimalText config.chatboxPort.toNat
    (by have := config.chatboxPort.toNat_lt; omega)
  have log : (decimalText config.transcriptLogging.toNat ≠ ascii "0") =
      (config.transcriptLogging ≠ 0) := by
    rw [ne_eq, ne_eq, decimalText_eq_zero_iff, ← UInt8.toNat_inj]
    rfl
  have keys : Key.ofText (ascii "src") = some .src ∧ Key.ofText (ascii "tgt") = some .tgt ∧
      Key.ofText (ascii "mode") = some .mode ∧ Key.ofText (ascii "addr") = some .addr ∧
      Key.ofText (ascii "port") = some .port ∧ Key.ofText (ascii "log") = some .log := by decide
  simp only [configFields, applyFields, applyField, keys, trimmed_of_clean clean.source,
    trimmed_of_clean clean.target, trimmed_of_clean clean.address,
    trimmed_of_clean (decimalText_clean _), trimmed_log, mode, port, log, Except.map, ofInt_toNat,
    HostConfig.requested]

/-- A line that comes out as requested has a clean text behind each key that stands where the split
of the line has it. -/
theorem clean_of_requested {config : CaptionsConfig} {host : HostConfig}
    (before : List (Text × Text)) {fields : List (Text × Text)} {key value left text : Text}
    {wanted : Key}
    (same : dispatchFields host (configBody config) = { config := host.requested config })
    (split : Splits (configBody config) (before ++ (key, value) :: fields) left)
    (converts : ∀ field ∈ before, Converts field) (named : Key.ofText key = some wanted)
    (textKey : wanted = .src ∨ wanted = .tgt ∨ wanted = .addr)
    (setting : (host.requested config).get wanted = .inl text) : Clean text := by
  have clean := applyFields_clean_at (values_of_splits split) converts named textKey host
  rw [← dispatchFields_of_splits split, same] at clean
  exact clean text setting

theorem converts_text {key : Text} (notMode : Key.ofText key ≠ some .mode)
    (notPort : Key.ofText key ≠ some .port) (value : Text) : Converts (key, value) := by
  rintro (mode | port)
  · exact absurd mode notMode
  · exact absurd port notPort

theorem converts_number (key : Text) (value : Nat) (fits : value < 2 ^ 31) :
    Converts (key, decimalText value) := by
  intro _
  rw [trimmed_of_clean (decimalText_clean value)]
  exact ⟨value, stoi_decimalText value fits⟩

/-- A rest of the line that starts with a key has a split that starts with the field of that key. -/
theorem splits_from {key : Text} (named : equalsSign ∉ key) (after : Text) :
    ∃ value fields left, Splits (key ++ equalsSign :: after) ((key, value) :: fields) left :=
  exists_splits_cons named fun rest _ => exists_splits rest

theorem roundTrips_iff (config : CaptionsConfig) (host : HostConfig) :
    RoundTrips config host ↔ CleanConfig config := by
  unfold RoundTrips
  rw [dispatch_of_body (body_buildHostConfigCommand config)]
  constructor
  · intro same
    have src : equalsSign ∉ ascii "src" := by decide
    have tgt : equalsSign ∉ ascii "tgt" := by decide
    have mode : equalsSign ∉ ascii "mode" := by decide
    have addr : equalsSign ∉ ascii "addr" := by decide
    have sourceText : Converts (ascii "src", config.sourceLang.text) :=
      converts_text (by decide) (by decide) _
    have targetText : Converts (ascii "tgt", config.targetLang.text) :=
      converts_text (by decide) (by decide) _
    have modeNumber := converts_number (ascii "mode") config.mode.toNat
      (by have := config.mode.toNat_lt; omega)
    have source : Clean config.sourceLang.text := by
      obtain ⟨value, fields, left, split⟩ := splits_from src
        (config.sourceLang.text ++ comma :: bodyFromTarget config)
      exact clean_of_requested [] same split (List.forall_mem_nil _) rfl (Or.inl rfl) rfl
    have target : Clean config.targetLang.text := by
      obtain ⟨value, fields, left, split⟩ := splits_from tgt
        (config.targetLang.text ++ comma ::
          (ascii "mode" ++ equalsSign :: (decimalText config.mode.toNat ++ comma ::
            bodyFromAddress config)))
      exact clean_of_requested [(ascii "src", config.sourceLang.text)] same
        (Splits.field src source.1 split) (List.forall_mem_singleton.mpr sourceText) rfl
        (Or.inr (Or.inl rfl)) rfl
    have address : Clean config.chatboxAddress.text := by
      obtain ⟨value, fields, left, split⟩ := splits_from addr
        (config.chatboxAddress.text ++ comma ::
          (ascii "port" ++ equalsSign :: (decimalText config.chatboxPort.toNat ++ comma ::
            (ascii "log" ++ equalsSign ::
              (decimalText config.transcriptLogging.toNat ++ [newline])))))
      refine clean_of_requested [(ascii "src", config.sourceLang.text),
        (ascii "tgt", config.targetLang.text), (ascii "mode", decimalText config.mode.toNat)] same
        (.field src source.1 <| .field tgt target.1 <| .field mode (decimalText_no_comma _) split)
        ?_ rfl (Or.inr (Or.inr rfl)) rfl
      simp only [List.forall_mem_cons]
      exact ⟨sourceText, targetText, modeNumber, List.forall_mem_nil _⟩
    exact ⟨source, target, address⟩
  · intro clean
    rw [dispatchFields_of_splits (splits_configBody clean), applyFields_configFields clean]

/-- The codec, exactly. A request survives the trip to the host if and only if no string in it holds
a ',' or ends in a line end; and a message is safe for every host, in that nothing is thrown and a
message that is not read to its end changes nothing, if and only if it is harmless. -/
theorem codec_exact_iff (config : CaptionsConfig) (host : HostConfig) (message : Text) :
    (RoundTrips config host ↔ CleanConfig config) ∧
    ((∀ given, (dispatchControlMessage given message).thrown = none ∧
      (¬Complete message → (dispatchControlMessage given message).config = given)) ↔
      Harmless message) :=
  ⟨roundTrips_iff config host, dispatch_safe_iff message⟩

/-! ### Inputs that fail -/

/-- A char array that holds a text and is zero behind it. -/
def CharArray.ofText {size : Nat} (text : Text) (fits : text.length < size) : CharArray size where
  bytes := text ++ List.replicate (size - text.length) 0
  length_eq := by
    rw [List.length_append, List.length_replicate]
    omega
  terminated := List.mem_append_right _ (List.mem_replicate.mpr ⟨by omega, rfl⟩)

/-- A request whose chatbox address holds a comma. -/
def commaAddress : CaptionsConfig :=
  { mode := 1
    transcriptLogging := 0
    chatboxPort := 9000
    sourceLang := .ofText (ascii "en") (by decide)
    targetLang := .ofText [] (by decide)
    chatboxAddress := .ofText (ascii "/chat,box") (by decide) }

/-- The address comes out cut at its comma. A message with a word for the mode throws, with its first
field already applied; a message that ends in a word without '=' is given up, with its first field
applied as well. -/
theorem commaAddress_cut :
    ¬RoundTrips commaAddress {} ∧
    (dispatchControlMessage {} (buildHostConfigCommand commaAddress)).config.chatboxAddress =
      ascii "/chat" ∧
    dispatchControlMessage {} (ascii "config:src=en,mode=x") =
      { config := { sourceLang := ascii "en" }, thrown := some .invalidArgument } ∧
    dispatchControlMessage {} (ascii "config:src=en,tgt") =
      { config := { sourceLang := ascii "en" } } := by
  have cut : (dispatchControlMessage {} (buildHostConfigCommand commaAddress)).config.chatboxAddress =
      ascii "/chat" := by decide +kernel
  refine ⟨?_, cut, by decide +kernel, by decide +kernel⟩
  intro trip
  rw [trip] at cut
  exact absurd cut (by decide +kernel)

end PairDriver.Captions
