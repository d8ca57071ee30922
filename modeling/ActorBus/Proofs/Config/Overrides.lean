import ActorBus.Config
import ActorBus.Proofs.Text.Case

/-!
# What override variables amount to

Variables are applied one after another, and the first one that cannot be read ends it. Where all of
them can be read, their order is left in one respect only: of the variables with one key the last
one counts. `Overridden` says this setting by setting, without a loop, and leaves no choice
(`Overridden.unique`). Whether the result is a valid configuration is asked of the end result alone,
so variables can mend a configuration that was not valid.
-/

set_option autoImplicit false

namespace ActorBus.Config

/-! ## What a value says -/

/-- A value says a word, in letters of either case. -/
def Says (value word : String) : Prop := value.toList ∈ spellings word.toList

instance (value word : String) : Decidable (Says value word) :=
  inferInstanceAs (Decidable (value.toList ∈ spellings word.toList))

/-- The words for a truth value. -/
def flagWords : Bool → List String
  | true => ["1", "true", "yes", "on"]
  | false => ["0", "false", "no", "off"]

/-- The word for a format. -/
def formatWord : Format → String
  | .json => "json"
  | .bincode => "bincode"

/-- A word without capitals. -/
def isSmall (word : String) : Bool := word.toList.all fun c => ¬(65 ≤ c.toNat ∧ c.toNat ≤ 90)

/-- A word without capitals is said by the values whose lower-case form it is. -/
theorem says_iff {value word : String} (hword : isSmall word = true) :
    Says value word ↔ value.map Char.toLower = word := by
  have hsmall : ∀ c ∈ word.toList, ¬(65 ≤ c.toNat ∧ c.toNat ≤ 90) :=
    fun c hc => of_decide_eq_true (List.all_eq_true.mp hword c hc)
  rw [Says, mem_spellings_iff hsmall, ← String.toList_inj, String.toList_map]

/-- A value says one of the words for a flag if it is that word but for the case. -/
theorem says_flagWord_iff {value word : String} {b : Bool} (hword : word ∈ flagWords b) :
    Says value word ↔ value.map Char.toLower = word := by
  have hsmall : ∀ b, ∀ word ∈ flagWords b, isSmall word = true := by decide
  exact says_iff (hsmall b word hword)

/-- The values that are read as a truth value are those that say one of its words. -/
theorem flag_eq_some_iff (value : String) (b : Bool) :
    flag value = some b ↔ ∃ word ∈ flagWords b, Says value word := by
  have hread : flag value = some b ↔ value.map Char.toLower ∈ flagWords b := by
    have hapart : ∀ word ∈ flagWords true, word ∉ flagWords false := by decide
    have hflag : flag value =
        if value.map Char.toLower ∈ flagWords true then some true
        else if value.map Char.toLower ∈ flagWords false then some false else none := rfl
    rw [hflag]
    split
    · next htrue => cases b <;> simp [htrue, hapart _ htrue]
    · next htrue =>
      split
      · next hfalse => cases b <;> simp [htrue, hfalse]
      · next hfalse => cases b <;> simp [htrue, hfalse]
  rw [hread]
  constructor
  · intro h
    exact ⟨_, h, (says_flagWord_iff h).mpr rfl⟩
  · rintro ⟨word, hword, hreads⟩
    rwa [(says_flagWord_iff hword).mp hreads]

/-- The values that are read as a format are those that say its word. -/
theorem formatOfName_eq_some_iff (value : String) (f : Format) :
    formatOfName (value.map Char.toLower) = some f ↔ Says value (formatWord f) := by
  have hsmall : isSmall (formatWord f) = true := by cases f <;> decide
  rw [says_iff hsmall]
  generalize value.map Char.toLower = word
  unfold formatOfName
  split
  · cases f <;> simp [formatWord]
  · cases f <;> simp [formatWord]
  · next hjson hbincode =>
    cases f with
    | json => simpa [formatWord] using hjson
    | bincode => simpa [formatWord] using hbincode

/-- A variable is refused if its key asks for a truth value or a format and its value says none. -/
def Refused (pair : String × String) : Prop :=
  pair.1 = "SILO_MONITOR" ∧ (∀ b, ∀ word ∈ flagWords b, ¬Says pair.2 word) ∨
    pair.1 = "SILO_FORMAT" ∧ ∀ f, ¬Says pair.2 (formatWord f)

/-- Exactly the refused variables cannot be applied, whatever the configuration. -/
theorem set?_eq_none_iff (key value : String) (c : Config) :
    c.set? key value = none ↔ Refused (key, value) := by
  have hflag : flag value = none ↔ ∀ b, ∀ word ∈ flagWords b, ¬Says value word := by
    rw [Option.eq_none_iff_forall_ne_some]
    simp only [ne_eq, flag_eq_some_iff, not_exists, not_and]
  have hformat : formatOfName (value.map Char.toLower) = none ↔
      ∀ f, ¬Says value (formatWord f) := by
    rw [Option.eq_none_iff_forall_ne_some]
    simp only [ne_eq, formatOfName_eq_some_iff]
  unfold set? Refused
  by_cases hname : key = "SILO_NAME"
  · subst hname
    simp
  by_cases hmonitor : key = "SILO_MONITOR"
  · subst hmonitor
    simp [hflag]
  by_cases hkey : key = "SILO_FORMAT"
  · subst hkey
    simp [hformat]
  · simp only [hname, hmonitor, hkey, if_false, false_and, or_false, iff_false]
    split <;> nofun

/-! ## The last variable of a key -/

/-- The value of the last variable that has a key. -/
def lastValue? (key : String) (vars : List (String × String)) : Option String :=
  vars.reverse.lookup key

/-- The last value of a key is the one of the later pairs, if they have one. -/
theorem lastValue?_append (key : String) (vars more : List (String × String)) :
    lastValue? key (vars ++ more) = (lastValue? key more).or (lastValue? key vars) := by
  rw [lastValue?, List.reverse_append, List.lookup_append]
  rfl

/-- A setting behind some variables: what the last one with its key says, and where there is none,
what it was. -/
def LastSays {α : Type} (key : String) (reads : String → α → Prop) (vars : List (String × String))
    (before after : α) : Prop :=
  match lastValue? key vars with
  | some value => reads value after
  | none => after = before

namespace LastSays

variable {α : Type} {key : String} {reads : String → α → Prop} {vars more : List (String × String)}
  {x y z : α}

/-- No pair says nothing. -/
theorem nil : LastSays key reads [] x x := rfl

/-- A pair under the key says what its value reads as. -/
theorem here {value : String} (h : reads value y) : LastSays key reads [(key, value)] x y := by
  have hlast : lastValue? key [(key, value)] = some value := List.lookup_cons_self
  rw [LastSays, hlast]
  exact h

/-- A pair under another key says nothing. -/
theorem elsewhere {other value : String} (h : other ≠ key) :
    LastSays key reads [(other, value)] x x := by
  have hlast : lastValue? key [(other, value)] = none := by
    simpa [lastValue?] using Ne.symm h
  rw [LastSays, hlast]

/-- The later variables have the last word, where they say anything. -/
theorem append (hfirst : LastSays key reads vars x y) (hsecond : LastSays key reads more y z) :
    LastSays key reads (vars ++ more) x z := by
  unfold LastSays at *
  rw [lastValue?_append]
  cases hlast : lastValue? key more with
  | some value =>
    rw [hlast] at hsecond
    exact hsecond
  | none =>
    rw [hlast] at hsecond
    subst hsecond
    exact hfirst

/-- Where a value says one thing at most, a setting is determined. -/
theorem unique (hreads : ∀ value y z, reads value y → reads value z → y = z)
    (hy : LastSays key reads vars x y) (hz : LastSays key reads vars x z) : y = z := by
  unfold LastSays at *
  cases hlast : lastValue? key vars with
  | some value =>
    rw [hlast] at hy hz
    exact hreads value y z hy hz
  | none =>
    rw [hlast] at hy hz
    rw [hy, hz]

/-- Only the last value of the key counts. -/
theorem congr (hlast : lastValue? key vars = lastValue? key more)
    (h : LastSays key reads vars x y) : LastSays key reads more x y := by
  unfold LastSays at *
  rwa [← hlast]

end LastSays

/-! ## All the settings -/

/-- The variables that mean something. -/
def settingKeys : List String :=
  ["SILO_NAME", "SILO_MONITOR", "SILO_FORMAT", "SILO_DEPARTURE_ADDRESS"]

/-- **What a configuration becomes** under variables, setting by setting. -/
structure Overridden (vars : List (String × String)) (c c' : Config) : Prop where
  name : LastSays "SILO_NAME" (fun value name => name = value) vars c.name c'.name
  monitor : LastSays "SILO_MONITOR" (fun value b => ∃ word ∈ flagWords b, Says value word) vars
    c.monitor c'.monitor
  format : LastSays "SILO_FORMAT" (fun value f => Says value (formatWord f)) vars
    c.codec.format c'.codec.format
  departureAddress : LastSays "SILO_DEPARTURE_ADDRESS" (fun value address => address = value) vars
    c.departureAddress c'.departureAddress
  others : c'.inbound = c.inbound ∧ c'.outbound = c.outbound ∧
    c'.codec.encoding = c.codec.encoding

namespace Overridden

variable {vars more : List (String × String)} {c c' c'' : Config}

/-- No pair overrides nothing. -/
theorem nil (c : Config) : Overridden [] c c :=
  ⟨.nil, .nil, .nil, .nil, rfl, rfl, rfl⟩

/-- Overrides are made one after the other. -/
theorem append (hfirst : Overridden vars c c') (hsecond : Overridden more c' c'') :
    Overridden (vars ++ more) c c'' where
  name := hfirst.name.append hsecond.name
  monitor := hfirst.monitor.append hsecond.monitor
  format := hfirst.format.append hsecond.format
  departureAddress := hfirst.departureAddress.append hsecond.departureAddress
  others := ⟨hsecond.others.1.trans hfirst.others.1, hsecond.others.2.1.trans hfirst.others.2.1,
    hsecond.others.2.2.trans hfirst.others.2.2⟩

/-- One variable does to a configuration what it says. -/
theorem of_set? {key value : String} (h : c.set? key value = some c') :
    Overridden [(key, value)] c c' := by
  unfold set? at h
  split at h
  · next hname =>
    cases h
    subst hname
    exact ⟨.here rfl, .elsewhere (by decide), .elsewhere (by decide), .elsewhere (by decide),
      rfl, rfl, rfl⟩
  split at h
  · next hmonitor =>
    subst hmonitor
    obtain ⟨b, hb, rfl⟩ := Option.map_eq_some_iff.mp h
    exact ⟨.elsewhere (by decide), .here ((flag_eq_some_iff value b).mp hb),
      .elsewhere (by decide), .elsewhere (by decide), rfl, rfl, rfl⟩
  split at h
  · next hformat =>
    subst hformat
    obtain ⟨f, hf, rfl⟩ := Option.map_eq_some_iff.mp h
    exact ⟨.elsewhere (by decide), .elsewhere (by decide),
      .here ((formatOfName_eq_some_iff value f).mp hf), .elsewhere (by decide), rfl, rfl, rfl⟩
  split at h
  · next haddress =>
    cases h
    subst haddress
    exact ⟨.elsewhere (by decide), .elsewhere (by decide), .elsewhere (by decide), .here rfl,
      rfl, rfl, rfl⟩
  · next hname hmonitor hformat haddress =>
    cases h
    exact ⟨.elsewhere hname, .elsewhere hmonitor, .elsewhere hformat, .elsewhere haddress,
      rfl, rfl, rfl⟩

/-- Variables leave no choice. -/
theorem unique (h : Overridden vars c c') (h' : Overridden vars c c'') : c' = c'' := by
  have hname := h.name.unique (fun _ _ _ hy hz => hy.trans hz.symm) h'.name
  have haddress :=
    h.departureAddress.unique (fun _ _ _ hy hz => hy.trans hz.symm) h'.departureAddress
  have hmonitor := h.monitor.unique (fun value y z hy hz => by
    rw [← flag_eq_some_iff] at hy hz
    exact Option.some.inj (hy.symm.trans hz)) h'.monitor
  have hformat := h.format.unique (fun value y z hy hz => by
    rw [← formatOfName_eq_some_iff] at hy hz
    exact Option.some.inj (hy.symm.trans hz)) h'.format
  obtain ⟨hinbound, houtbound, hencoding⟩ := h.others
  obtain ⟨hinbound', houtbound', hencoding'⟩ := h'.others
  obtain ⟨_, _, _, _, ⟨_, _⟩, _⟩ := c'
  obtain ⟨_, _, _, _, ⟨_, _⟩, _⟩ := c''
  simp_all

/-- Of the variables only the last one for each setting counts. -/
theorem congr (hlast : ∀ key ∈ settingKeys, lastValue? key vars = lastValue? key more)
    (h : Overridden vars c c') : Overridden more c c' where
  name := h.name.congr (hlast _ (by decide))
  monitor := h.monitor.congr (hlast _ (by decide))
  format := h.format.congr (hlast _ (by decide))
  departureAddress := h.departureAddress.congr (hlast _ (by decide))
  others := h.others

end Overridden

/-! ## Applying variables -/

variable {vars : List (String × String)} {c : Config}

/-- Variables of which none is refused are all applied. -/
theorem exists_setAll (h : ∀ pair ∈ vars, ¬Refused pair) :
    ∃ c', setAll vars c = .ok c' ∧ Overridden vars c c' := by
  induction vars generalizing c with
  | nil => exact ⟨c, rfl, .nil c⟩
  | cons pair vars ih =>
    obtain ⟨key, value⟩ := pair
    obtain ⟨hpair, hvars⟩ := List.forall_mem_cons.mp h
    obtain ⟨c₁, hset⟩ := Option.ne_none_iff_exists'.mp (mt (set?_eq_none_iff key value c).mp hpair)
    obtain ⟨c', hall, hrest⟩ := ih (c := c₁) hvars
    refine ⟨c', ?_, (Overridden.of_set? hset).append hrest⟩
    rw [setAll, hset]
    exact hall

/-- Behind variables that are applied the others go on from what these have left. -/
theorem setAll_append {c' : Config} (h : setAll vars c = .ok c') (more : List (String × String)) :
    setAll (vars ++ more) c = setAll more c' := by
  induction vars generalizing c with
  | nil =>
    cases h
    rfl
  | cons pair vars ih =>
    rw [setAll] at h
    rw [List.cons_append, setAll]
    cases hset : c.set? pair.1 pair.2 with
    | none =>
      rw [hset] at h
      cases h
    | some c₁ =>
      rw [hset] at h
      exact ih h

/-- The first refused variable ends it, whatever comes behind. -/
theorem setAll_of_refused {key value : String} (h : ∀ pair ∈ vars, ¬Refused pair)
    (hrefused : Refused (key, value)) (rest : List (String × String)) :
    setAll (vars ++ (key, value) :: rest) c = .error (.invalid key value) := by
  obtain ⟨c', hall, -⟩ := exists_setAll (c := c) h
  rw [setAll_append hall, setAll, (set?_eq_none_iff key value c').mpr hrefused]

/-- A silo can be made with a configuration: its two endpoints have names of their own, and
departure notices have an address. -/
structure Valid (c : Config) : Prop where
  inbound : c.inbound ≠ ""
  endpoints : c.inbound ≠ c.outbound
  departureAddress : c.departureAddress ≠ ""

/-- A configuration that passes the validation is valid, and goes through unchanged. -/
theorem validate_eq_ok_iff (c r : Config) : c.validate = .ok r ↔ r = c ∧ c.Valid := by
  unfold validate
  split
  · next hpipe =>
    simp only [reduceCtorEq, false_iff, not_and]
    rintro - ⟨hinbound, hends, -⟩
    exact hpipe.elim hinbound hends
  · next hpipe =>
    rw [not_or] at hpipe
    split
    · next haddress =>
      simp only [reduceCtorEq, false_iff, not_and]
      rintro - ⟨-, -, hsome⟩
      exact hsome haddress
    · next haddress =>
      rw [Except.ok.injEq, eq_comm, iff_self_and]
      intro _
      exact ⟨hpipe.1, hpipe.2, haddress⟩

/-- **The last variable of a key wins.** Variables fail at the first one that is refused, and name
it, also where a later one for the same setting can be read. Where none is refused, they lead to one
configuration: each of the four settings is what the last variable for it says, or what it was, and
everything else stays. That configuration is the result exactly if it is valid, be the one before
the variables valid or not. So variables of which none is refused can be put in any order and
repeated, as long as the last one for each setting stays the same. -/
theorem override_last_wins (vars : List (String × String)) (c : Config) :
    (∀ front key value rest, vars = front ++ (key, value) :: rest →
      (∀ pair ∈ front, ¬Refused pair) → Refused (key, value) →
      override vars c = .error (.invalid key value)) ∧
    ((∀ pair ∈ vars, ¬Refused pair) →
      (∃ c', Overridden vars c c' ∧ ∀ r, override vars c = .ok r ↔ r = c' ∧ c'.Valid) ∧
      ∀ others, (∀ pair ∈ others, ¬Refused pair) →
        (∀ key ∈ settingKeys, lastValue? key vars = lastValue? key others) →
        override vars c = override others c) := by
  have hoverride {vars : List (String × String)} {c' : Config} (hall : setAll vars c = .ok c') :
      override vars c = c'.validate := by
    rw [override, hall]
    rfl
  constructor
  · rintro front key value rest rfl hfront hrefused
    rw [override, setAll_of_refused hfront hrefused]
    rfl
  · intro haccepted
    obtain ⟨c', hall, hc'⟩ := exists_setAll (c := c) haccepted
    refine ⟨⟨c', hc', fun r => ?_⟩, ?_⟩
    · rw [hoverride hall, validate_eq_ok_iff]
    · intro others hothers hlast
      obtain ⟨c'', hall', hc''⟩ := exists_setAll (c := c) hothers
      rw [hoverride hall, hoverride hall', (hc'.congr hlast).unique hc'']

/-- A flag that cannot be read is named although a later one can. Otherwise a configuration without
an address for departure notices is mended, in any order of the variables that count. -/
theorem override_last_wins_mended :
    let broken : Config := { standard with departureAddress := "" }
    let mended : Config :=
      ⟨"edge", standard.inbound, standard.outbound, true, ⟨.bincode, .utf8⟩, "gone"⟩
    let vars := [("SILO_FORMAT", "Json"), ("SILO_NAME", "a"), ("OTHER", "x"), ("SILO_NAME", "edge"),
      ("SILO_FORMAT", "BinCode"), ("SILO_DEPARTURE_ADDRESS", "gone"), ("SILO_MONITOR", "YES")]
    let others := [("SILO_MONITOR", "off"), ("SILO_MONITOR", "YES"),
      ("SILO_DEPARTURE_ADDRESS", "gone"), ("SILO_FORMAT", "BinCode"), ("SILO_NAME", "edge")]
    override [("SILO_NAME", "a"), ("SILO_MONITOR", "maybe"), ("SILO_MONITOR", "on")] broken =
        .error (.invalid "SILO_MONITOR" "maybe") ∧
      override vars broken = .ok mended ∧ override others broken = .ok mended := by
  intro broken mended vars others
  have haccepted {pairs : List (String × String)}
      (h : ∀ pair ∈ pairs, broken.set? pair.1 pair.2 ≠ none) : ∀ pair ∈ pairs, ¬Refused pair :=
    fun pair hpair => mt (set?_eq_none_iff pair.1 pair.2 broken).mpr (h pair hpair)
  have hvars : ∀ pair ∈ vars, ¬Refused pair := haccepted (by decide +kernel)
  have hothers : ∀ pair ∈ others, ¬Refused pair := haccepted (by decide +kernel)
  have hmonitor : ∃ word ∈ flagWords true, Says "YES" word := ⟨"yes", by decide, by decide⟩
  have hformat : Says "BinCode" "bincode" := by decide
  have hmended : Overridden vars broken mended := ⟨rfl, hmonitor, hformat, rfl, rfl, rfl, rfl⟩
  obtain ⟨hfail, -⟩ := override_last_wins
    [("SILO_NAME", "a"), ("SILO_MONITOR", "maybe"), ("SILO_MONITOR", "on")] broken
  obtain ⟨⟨c', hc', hresult⟩, hsame⟩ := (override_last_wins vars broken).2 hvars
  have hok : override vars broken = .ok mended := by
    rw [hresult, ← hmended.unique hc']
    exact ⟨rfl, by decide, by decide, by decide⟩
  refine ⟨?_, hok, ?_⟩
  · refine hfail [("SILO_NAME", "a")] "SILO_MONITOR" "maybe" [("SILO_MONITOR", "on")] rfl ?_ ?_
    · exact haccepted (by decide +kernel)
    · exact (set?_eq_none_iff "SILO_MONITOR" "maybe" broken).mp (by decide +kernel)
  · rw [← hsame others hothers (by decide +kernel), hok]

end ActorBus.Config
