import ArtemisSwitch.Library.Runs
import ArtemisSwitch.SettingsFile

/-!
# Duplicates in the host list

The list stays free of duplicates as long as no entry that is joined comes to match a third
one, because a join looks at the first match only.
-/

namespace ArtemisSwitch.HostStore
open Runs Jansson

/-- The calls that change the list.  A load finds what somebody else may have written. -/
inductive Call
  | load (content : Option Value)
  | addHost (host : Host)
  | removeHost (host : Host)
  | addFavorite (host : Host) (app : App)
  | removeFavorite (host : Host) (appId : Int32)

namespace Settings

/-- The list is saved when an entry was found for the call. -/
def saveIf (found : Bool) (preferences : Value) (s : Settings) : Settings :=
  if found then s.save preferences else s

def hasFavorite (hosts : List Host) (host : Host) (appId : Int32) : Bool :=
  (hosts.find? (hostsMatch · host)).any fun existing => existing.favorites.any (·.appId = appId)

def next (button : ControllerButtons) (preferences : Value) (s : Settings) : Call → Settings
  | .load content => load button preferences { s with file := content }
  | .addHost host => save preferences { s with hosts := HostStore.addHost s.hosts host }
  | .removeHost host =>
    saveIf (s.hosts.any (hostsMatch · host)) preferences
      { s with hosts := HostStore.removeHost s.hosts host }
  | .addFavorite host app =>
    saveIf (s.hosts.any (hostsMatch · host)) preferences
      { s with hosts := HostStore.addFavorite s.hosts host app }
  | .removeFavorite host appId =>
    saveIf (hasFavorite s.hosts host appId) preferences
      { s with hosts := HostStore.removeFavorite s.hosts host appId }

def step (button : ControllerButtons) (preferences : Value) (s : Settings) (call : Call) :
    Option Settings := some (s.next button preferences call)

end Settings

/-- The records of what was found at the path. -/
def fileRecords : Option Value → List Host
  | some root => if root.isObject then storedHosts root else []
  | none => []

/-- Each record in turn stays apart from the entries it does not join. -/
def recordsApart : List Host → List Host → Bool
  | _, [] => true
  | hosts, record :: records =>
    joinsApart hosts record && recordsApart (loadHost hosts record).1 records

/-- What comes in joins no entry that matches a third one afterwards. -/
def Call.Apart (s : Settings) : Call → Prop
  | .load content => recordsApart [] (fileRecords content) = true
  | .addHost host => joinsApart s.hosts host.ensureEndpoints = true
  | _ => True

instance (s : Settings) (call : Call) : Decidable (call.Apart s) := by
  cases call <;> (dsimp only [Call.Apart]; infer_instance)

variable {button : ControllerButtons} {preferences : Value} {s t : Settings} {hosts : List Host}

lemma hostFromJson_synced (v : Value) : (hostFromJson v).Synced :=
  (synced_favorites _ _).mpr Host.synced_ensureEndpoints

lemma fileRecords_synced (content : Option Value) : ∀ h ∈ fileRecords content, h.Synced := by
  intro h hmem
  unfold fileRecords at hmem
  split at hmem
  · split_ifs at hmem
    · obtain ⟨v, -, rfl⟩ := List.mem_map.mp hmem
      exact hostFromJson_synced v
    · simp at hmem
  · simp at hmem

/-- A load puts the merged records in place of the list. -/
lemma load_hosts (button : ControllerButtons) (preferences : Value) (s : Settings) :
    (s.load button preferences).hosts = (loadRecords (fileRecords s.file)).1 := by
  unfold Settings.load fileRecords
  cases s.file with
  | none => rfl
  | some root =>
    dsimp only
    by_cases hobject : root.isObject = true
    · rw [if_pos hobject, if_pos hobject]
      split_ifs <;> rfl
    · rw [if_neg hobject, if_neg hobject]
      rfl

lemma loadHost_length (hosts : List Host) (host : Host) :
    (loadHost hosts host).1.length + (loadHost hosts host).2.toNat = hosts.length + 1 := by
  unfold loadHost
  cases hupsert : upsertHost hosts host with
  | none => simp
  | some joined =>
    obtain ⟨before, e, after, rfl, -, -, rfl⟩ := updateFirst_eq_some hupsert
    simp

lemma loadRecords_concat (records : List Host) (host : Host) :
    loadRecords (records ++ [host]) =
      ((loadHost (loadRecords records).1 host).1,
        (loadRecords records).2 || (loadHost (loadRecords records).1 host).2) := by
  simp [loadRecords]

/-- Records with a duplicate among them get fewer. -/
theorem loadRecords_merged {records : List Host} (h : ¬Distinct records) :
    (loadRecords records).1.length < records.length ∧ (loadRecords records).2 = true := by
  induction records using List.reverseRecOn with
  | nil => exact absurd List.Pairwise.nil h
  | append_singleton records host ih =>
    have hlength := loadHost_length (loadRecords records).1 host
    rw [loadRecords_concat]
    by_cases hd : Distinct records
    · have hloaded := loadRecords_distinct hd
      have hjoined : (loadHost records host).2 = true := by
        by_contra hnot
        refine h (append_distinct hd ?_)
        by_contra hsome
        obtain ⟨joined, hupsert⟩ := Option.ne_none_iff_exists'.mp hsome
        exact hnot (by simp [loadHost, hupsert])
      rw [hloaded] at hlength ⊢
      simp only [hjoined, Bool.toNat_true] at hlength
      refine ⟨?_, by simpa using hjoined⟩
      rw [List.length_append, List.length_singleton]
      show (loadHost records host).1.length < records.length + 1
      omega
    · obtain ⟨hfewer, hflag⟩ := ih hd
      refine ⟨?_, by simp [hflag]⟩
      rw [List.length_append, List.length_singleton]
      show (loadHost (loadRecords records).1 host).1.length < records.length + 1
      omega

/-- How many records a file holds. -/
lemma fileRecords_length (root : Value) :
    (storedHosts root).length = ((itemsAt "hosts" root).filter Value.isObject).length :=
  List.length_map _

lemma storedHosts_length_toJson (preferences : Value) (s : Settings) :
    (storedHosts (s.toJson preferences)).length = s.hosts.length := by
  have hitems : itemsAt "hosts" (s.toJson preferences) = s.hosts.map hostToJson :=
    itemsAt_eq (get_makeObject_at 0 rootKeys_ok rfl rfl)
  rw [fileRecords_length, hitems, filter_isObject_map fun _ => rfl, List.length_map]

/-- A load leaves the file alone exactly when its records are distinct. -/
theorem load_file_iff (button : ControllerButtons) (preferences : Value) (s : Settings) :
    (s.load button preferences).file = s.file ↔ Distinct (fileRecords s.file) := by
  unfold Settings.load fileRecords
  have hempty : Distinct [] := List.Pairwise.nil
  cases s.file with
  | none => exact iff_of_true rfl hempty
  | some root =>
    dsimp only
    by_cases hobject : root.isObject = true
    · rw [if_pos hobject, if_pos hobject]
      by_cases hd : Distinct (storedHosts root)
      · simp [loadRecords_distinct hd, hd]
      · obtain ⟨hfewer, hflag⟩ := loadRecords_merged hd
        rw [if_pos hflag]
        refine iff_of_false (fun heq => ?_) hd
        have hcount := congrArg List.length (congrArg storedHosts (Option.some.inj heq))
        rw [storedHosts_length_toJson] at hcount
        exact absurd hcount hfewer.ne
    · rw [if_neg hobject, if_neg hobject]
      exact iff_of_true rfl hempty

lemma load_file_eq_none (button : ControllerButtons) (preferences : Value) (s : Settings) :
    (s.load button preferences).file = none ↔ s.file = none := by
  unfold Settings.load
  cases s.file with
  | none => exact Iff.rfl
  | some root =>
    dsimp only
    split_ifs <;> simp [Settings.save]

/-- The invariant along the records of a file. -/
lemma records_distinct (records : List Host) (hrecords : ∀ h ∈ records, h.Synced) :
    ∀ loaded : List Host × Bool, Distinct loaded.1 → (∀ h ∈ loaded.1, h.Synced) →
      recordsApart loaded.1 records = true →
        Distinct (records.foldl (fun loaded host =>
          ((loadHost loaded.1 host).1, loaded.2 || (loadHost loaded.1 host).2)) loaded).1 ∧
        ∀ h ∈ (records.foldl (fun loaded host =>
          ((loadHost loaded.1 host).1, loaded.2 || (loadHost loaded.1 host).2)) loaded).1,
            h.Synced := by
  induction records with
  | nil => exact fun _ hd hs _ => ⟨hd, hs⟩
  | cons record records ih =>
    intro loaded hd hs hapart
    obtain ⟨hfirst, hrest⟩ := (Bool.and_eq_true _ _).mp hapart
    have hrecord : record.Synced := hrecords record (by simp)
    rw [List.foldl_cons]
    exact ih (fun h hmem => hrecords h (List.mem_cons_of_mem _ hmem)) _
      ((loadHost_distinct hd hs hrecord).mpr hfirst) (loadHost_synced hs hrecord) hrest

lemma saveIf_hosts (found : Bool) (preferences : Value) (s : Settings) :
    (s.saveIf found preferences).hosts = s.hosts := by
  unfold Settings.saveIf
  split_ifs <;> rfl

/-- One call that keeps apart what it joins. -/
theorem next_distinct (hd : Distinct s.hosts) (hs : ∀ h ∈ s.hosts, h.Synced) (call : Call)
    (hapart : call.Apart s) :
    Distinct (s.next button preferences call).hosts ∧
      ∀ h ∈ (s.next button preferences call).hosts, h.Synced := by
  cases call with
  | load content =>
    rw [Settings.next, load_hosts]
    exact records_distinct _ (fileRecords_synced content) ([], false) .nil (by simp) hapart
  | addHost host => exact ⟨(addHost_distinct hd hs host).mpr hapart, addHost_synced hs host⟩
  | removeHost host =>
    rw [Settings.next, saveIf_hosts]
    exact ⟨removeHost_distinct hd host, removeHost_synced hs host⟩
  | addFavorite host app =>
    rw [Settings.next, saveIf_hosts]
    exact ⟨favorites_distinct hd, favorites_synced hs⟩
  | removeFavorite host appId =>
    rw [Settings.next, saveIf_hosts]
    exact ⟨favorites_distinct hd, favorites_synced hs⟩

/-- The list has no duplicates as long as every call keeps apart what it joins.  The first
`add_host` that does not makes one. -/
theorem hosts_stay_distinct
    (h : Run (Settings.step button preferences) (fun s call => call.Apart s) {} s) :
    Distinct s.hosts ∧ ∀ host, joinsApart s.hosts host.ensureEndpoints = false →
      ¬Distinct (s.next button preferences (.addHost host)).hosts := by
  have hinv : Distinct s.hosts ∧ ∀ host ∈ s.hosts, host.Synced := by
    have hstart : Distinct ({} : Settings).hosts ∧ ∀ host ∈ ({} : Settings).hosts, host.Synced :=
      ⟨.nil, by simp⟩
    refine Run.invariant (I := fun s : Settings => Distinct s.hosts ∧ ∀ host ∈ s.hosts, host.Synced)
      hstart (fun t call u ht hapart hstep => ?_) h
    obtain rfl := Option.some.inj hstep
    exact next_distinct ht.1 ht.2 call hapart
  refine ⟨hinv.1, fun host hjoins hdistinct => ?_⟩
  have happart := (addHost_distinct hinv.1 hinv.2 host).mp hdistinct
  rw [hjoins] at happart
  exact Bool.false_ne_true happart

/-- The desk's PC under the name of another one. -/
def renamedDesk : Host := { desk with hostname := ascii "attic" }

def namedAttic : Host := { attic with hostname := ascii "Attic", mac := ascii "aa-bb-cc-00-33-44" }

/-- A load, three hosts of which two are one, and favourites. -/
def quietCalls : List Call :=
  [.load none, .addHost desk, .addHost namedAttic, .addHost { desk with mac := [] },
    .addFavorite desk desktopApp, .removeFavorite desk 881448767, .removeHost namedAttic]

def afterQuietCalls : Settings :=
  quietCalls.foldl (Settings.next ⟨0, 1, 2, 3⟩ (.object [])) {}

theorem hosts_stay_distinct_quiet :
    Distinct afterQuietCalls.hosts ∧
      ∀ host, joinsApart afterQuietCalls.hosts host.ensureEndpoints = false →
        ¬Distinct (afterQuietCalls.next ⟨0, 1, 2, 3⟩ (.object []) (.addHost host)).hosts :=
  hosts_stay_distinct (Run.of_foldl (show allowed (Settings.next ⟨0, 1, 2, 3⟩ (.object []))
    (fun s call => call.Apart s) {} quietCalls = true by decide +kernel))

/-- One of two PCs takes the name of the other. -/
def renameCalls : List Call := [.addHost desk, .addHost namedAttic, .addHost renamedDesk]

/-- The entry that takes the new name comes to match the other host of that name. -/
theorem rename_makes_duplicate :
    ∃ s, Run (Settings.step ⟨0, 1, 2, 3⟩ (.object [])) (fun _ _ => True) {} s ∧
      s.hosts.length = 2 ∧ ¬Distinct s.hosts :=
  ⟨renameCalls.foldl (Settings.next ⟨0, 1, 2, 3⟩ (.object [])) {},
    Run.of_foldl (by decide +kernel), by decide +kernel, by decide +kernel⟩

end ArtemisSwitch.HostStore
