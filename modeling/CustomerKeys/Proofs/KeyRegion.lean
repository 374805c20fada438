import CustomerKeys.Proofs.Sessions

/-!
# Where the key of accepted settings lies

The settings are meant to name a key that covers the first two zones and not the third. Validation
reads the key and compares the zones with each other, but does not compare the key with the zones;
whether a key may protect a cluster is for the control plane to say. Settings are therefore accepted
with a key in any location.

What they are meant to be depends on that location alone. When it is the region of the primary zone,
the key covers the first two zones and not the third, and a plane creates the first two clusters and
refuses the third. When it is any other, the key covers neither of the first two zones, and a plane
refuses already the first cluster. The settings that `init` prints have the same zones for every
key, so they are as they are meant exactly for the keys of `us-central1`.
-/

namespace CustomerKeys

open Command

namespace Settings

/-- The replies to the three clusters of the settings: to the creation of an instance with the first
one, and to the second and the third when they are added to it. -/
structure ClusterReplies where
  first : Except AdminError Instance
  second : Except AdminError Cluster
  third : Except AdminError Cluster

/-- Ask a client for the three clusters one after the other, whatever it replies. -/
def askForClusters {σ : Type} (settings : Settings) (ids : ScenarioIds) (client : Client σ)
    (state : σ) : ClusterReplies :=
  let created := client (.createInstance ids.instanceId
    [settings.clusterSpec ids.clusterId settings.primaryZone]) state
  let joined := client (.createCluster ids.instanceId
    (settings.clusterSpec ids.secondClusterId settings.siblingZone)) created.2
  let refused := client (.createCluster ids.instanceId
    (settings.clusterSpec ids.rejectedClusterId settings.foreignZone)) joined.2
  ⟨created.1, joined.1, refused.1⟩

/-- A call is refused because the key must not protect a cluster in a zone. -/
def RefusedIn {α : Type} (settings : Settings) (project zone : String)
    (reply : Except AdminError α) : Prop :=
  ∃ error, reply = .error error ∧ error.isFailedPrecondition = true ∧
    error.message = expectedRejection project settings.key zone

/-- The replies that the settings are meant to get: the first two clusters are created, and the
third is refused for its zone. -/
structure RepliedAsMeant (settings : Settings) (project : String) (replies : ClusterReplies) :
    Prop where
  created : ∃ holder, replies.first = .ok holder
  joined : ∃ cluster, replies.second = .ok cluster
  refused : settings.RefusedIn project settings.foreignZone replies.third

/-- The error with which a plane refuses a misplaced key says so in the expected words. -/
theorem refused_in_misplaced_key {α : Type} (settings : Settings) (project zone : String) :
    settings.RefusedIn project zone
      (.error (Refusal.misplacedKey settings.key project zone).toError : Except AdminError α) :=
  ⟨_, rfl, rfl, Refusal.message_misplaced_key settings.key project zone⟩

variable {settings : Settings} {now : UInt64} {name : KeyName} {region : String}

/-- The zones of sound settings are as they are meant exactly when their key lies in the region. -/
theorem Sound.placed_iff (sound : settings.Sound now name region) :
    settings.Placed name ↔ settings.KeyInRegion := by
  rw [sound.key_in_region_iff]
  constructor
  · intro placed
    exact sound.covers_primary_iff.mp placed.primary
  · exact sound.placed

/-- The key covers neither of the first two zones exactly when it lies elsewhere. -/
theorem Sound.covers_neither_iff (sound : settings.Sound now name region) :
    name.covers settings.primaryZone = false ∧ name.covers settings.siblingZone = false ↔
      ¬ settings.KeyInRegion := by
  rw [Bool.eq_false_iff, Bool.eq_false_iff, ne_eq, ne_eq, sound.covers_primary_iff,
    sound.covers_sibling_iff, sound.key_in_region_iff, and_self]

section Plane

variable (handle : Handle) (clock : UInt64) (plane : Plane) (ids : ScenarioIds)

/-- With a key that covers its zones, a plane that does not have the instance yet replies to the
three clusters as it is meant to. -/
theorem Placed.replied_as_meant (placed : settings.Placed name)
    (fresh : plane.hasInstance ids.instanceId = false)
    (apart : ids.clusterId ≠ ids.secondClusterId) :
    settings.RepliedAsMeant handle.project
      (settings.askForClusters ids (handle.client clock) plane) := by
  let first := settings.clusterSpec ids.clusterId settings.primaryZone
  have created : handle.client clock (.createInstance ids.instanceId [first]) plane =
      (.ok ⟨ids.instanceId, [ids.clusterId], clock⟩,
        plane.put ids.instanceId (some (.ofSpecs ids.instanceId [first]))) := by
    apply handle.client_eq_of_single clock
    rw [Request.instanceId, Plane.lookup_eq_none_of_has_instance fresh]
    exact placed.create_first handle clock ids
  constructor
  · exact ⟨_, congrArg Prod.fst created⟩
  · refine ⟨.ofSpec ids.instanceId (settings.clusterSpec ids.secondClusterId settings.siblingZone),
      ?_⟩
    simp only [askForClusters]
    rw [created, handle.client_fst, Request.instanceId, Plane.lookup_put_self,
      placed.create_second handle clock apart]
  · simp only [askForClusters]
    rw [handle.client_fst, placed.refuse_third handle clock ids]
    exact settings.refused_in_misplaced_key handle.project settings.foreignZone

/-- With a key that does not cover the primary zone, a plane refuses the first cluster, in whichever
state it is. -/
theorem refused_in_primary (readsKey : KeyName.parse settings.key = .ok name)
    (outside : name.covers settings.primaryZone = false) :
    settings.RefusedIn handle.project settings.primaryZone
      (settings.askForClusters ids (handle.client clock) plane).first := by
  have refused := handle.placement_refusal_of_not_covers readsKey outside ids.clusterId
  simp only [askForClusters]
  rw [handle.client_fst, handle.single_create_instance_of_refused clock ids.instanceId refused]
  exact settings.refused_in_misplaced_key handle.project settings.primaryZone

/-- On a plane that does not have the instance yet, the key of sound settings decides the replies:
the meant ones exactly when it lies in the region of the zones, and otherwise a refusal of the first
cluster. -/
theorem Sound.replies_iff (sound : settings.Sound now name region)
    (fresh : plane.hasInstance ids.instanceId = false)
    (apart : ids.clusterId ≠ ids.secondClusterId) :
    let replies := settings.askForClusters ids (handle.client clock) plane
    (settings.RepliedAsMeant handle.project replies ↔ settings.KeyInRegion) ∧
      (settings.RefusedIn handle.project settings.primaryZone replies.first ↔
        ¬ settings.KeyInRegion) := by
  intro replies
  by_cases inRegion : settings.KeyInRegion
  · have placed := sound.placed (sound.key_in_region_iff.mp inRegion)
    have meant := placed.replied_as_meant handle clock plane ids fresh apart
    constructor
    · exact iff_of_true meant inRegion
    · apply iff_of_false
      · rintro ⟨error, refused, -⟩
        obtain ⟨holder, created⟩ := meant.created
        cases created.symm.trans refused
      · exact not_not_intro inRegion
  · have refused := settings.refused_in_primary handle clock plane ids sound.readsKey
      (sound.covers_neither_iff.mpr inRegion).1
    constructor
    · apply iff_of_false
      · intro meant
        obtain ⟨error, failed, -⟩ := refused
        obtain ⟨holder, created⟩ := meant.created
        cases created.symm.trans failed
      · exact inRegion
    · exact iff_of_true refused inRegion

end Plane

/-- The zones of the settings to start from lie in `us-central1`. -/
theorem key_in_region_scaffold_iff {project key : String} {name : KeyName}
    (readsKey : KeyName.parse key = .ok name) :
    (scaffold project key).KeyInRegion ↔ name.location = "us-central1" := by
  have primary : Zone.region (scaffold project key).primaryZone = .ok "us-central1" :=
    (rfl : Zone.region "us-central1-b" = .ok "us-central1")
  constructor
  · rintro ⟨again, readsAgain, inRegion⟩
    obtain rfl := Except.ok.inj (readsKey.symm.trans readsAgain)
    exact (Except.ok.inj (primary.symm.trans inRegion)).symm
  · intro central
    exact ⟨name, readsKey, central ▸ primary⟩

/-- The location of the key decides whether accepted settings are what they are meant to be. The key
covers the first two zones and not the third exactly when it lies in the region of the primary zone,
and otherwise it covers neither of the first two. So does a plane without the instance reply: either
it creates the first two clusters and refuses the third in the expected words, or it refuses the
first. What `init` prints is read back as settings that are accepted, and of these the key lies in
the region exactly when its location is `us-central1`. -/
theorem placed_exactly_in_key_region :
    (∀ (settings : Settings) (now : UInt64), settings.validate now = .ok () →
      ∃ name, KeyName.parse settings.key = .ok name ∧
        (settings.Placed name ↔ settings.KeyInRegion) ∧
        (name.covers settings.primaryZone = false ∧ name.covers settings.siblingZone = false ↔
          ¬ settings.KeyInRegion) ∧
        ∀ (handle : Handle) (clock : UInt64) (plane : Plane) (ids : ScenarioIds),
          plane.hasInstance ids.instanceId = false → ids.clusterId ≠ ids.secondClusterId →
            let replies := settings.askForClusters ids (handle.client clock) plane
            (settings.RepliedAsMeant handle.project replies ↔ settings.KeyInRegion) ∧
            (settings.RefusedIn handle.project settings.primaryZone replies.first ↔
              ¬ settings.KeyInRegion)) ∧
    ∀ (surroundings : Surroundings) (arguments : List String) (project key : String),
      Invocation.read arguments = .ok (.init ⟨project, key⟩) →
        (session surroundings arguments).code = 0 →
          (scaffold project key).validate surroundings.now = .ok () ∧
          ofToml (session surroundings arguments).output = .ok (scaffold project key) ∧
          ∃ name, KeyName.parse key = .ok name ∧
            ((scaffold project key).KeyInRegion ↔ name.location = "us-central1") := by
  constructor
  · intro settings now accepted
    obtain ⟨name, region, sound⟩ := validate_eq_ok_iff.mp accepted
    refine ⟨name, sound.readsKey, sound.placed_iff, sound.covers_neither_iff, ?_⟩
    intro handle clock plane ids fresh apart
    exact sound.replies_iff handle clock plane ids fresh apart
  · intro surroundings arguments project key asked succeeded
    have accepted := (InitOptions.code_session_iff _ asked).mp succeeded
    have reads := InitOptions.of_toml_output _ asked succeeded
    obtain ⟨name, region, sound⟩ := validate_eq_ok_iff.mp accepted
    exact ⟨accepted, reads, name, sound.readsKey, key_in_region_scaffold_iff sound.readsKey⟩

/-- The settings of the sandbox, printed by `init`, and their clusters on a plane that has another
instance. -/
theorem sandbox_settings_placed :
    let init : InitOptions := ⟨sandboxProject, sandboxKey⟩
    let printed := session ⟨7, fun _ => .error .missing, fun _ => none⟩ init.arguments
    let settings := scaffold sandboxProject sandboxKey
    let handle : Handle := ⟨"p", 2, 3⟩
    let plane := Plane.empty.put "kept" (some (.ofSpecs "kept" [⟨"c", "a-b", 1, .ssd, none⟩]))
    let ids := ScenarioIds.ofRun "cmek-it-" .instanceCluster 7
    Invocation.read init.arguments = .ok (.init init) ∧ printed.code = 0 ∧
      ofToml printed.output = .ok settings ∧ settings.validate 7 = .ok () ∧
      plane.hasInstance ids.instanceId = false ∧ ids.clusterId ≠ ids.secondClusterId ∧
      settings.RepliedAsMeant "p" (settings.askForClusters ids (handle.client 9) plane) := by
  intro init printed settings handle plane ids
  obtain ⟨placed, prints⟩ := placed_exactly_in_key_region
  have asked : Invocation.read init.arguments = .ok (.init init) := init.read_arguments
  have early : (timeAfter? 7 usualBackupLifetime).isSome := by decide
  have accepted : settings.validate 7 = .ok () :=
    (validate_scaffold_iff early).mpr ⟨by decide, _, parse_sandbox_key⟩
  have succeeded : printed.code = 0 := (init.code_session_iff asked).mpr accepted
  obtain ⟨-, reads, name, readsKey, central⟩ := prints _ _ _ _ asked succeeded
  obtain rfl := Except.ok.inj (parse_sandbox_key.symm.trans readsKey)
  have fresh : plane.hasInstance ids.instanceId = false := by decide
  have apart : ids.clusterId ≠ ids.secondClusterId :=
    ScenarioIds.cluster_id_ne_second_cluster_id _ _ _
  obtain ⟨-, -, -, -, replies⟩ := placed settings 7 accepted
  have meant := (replies handle 9 plane ids fresh apart).1.mpr (central.mpr rfl)
  exact ⟨asked, succeeded, reads, accepted, fresh, apart, meant⟩

/-- `init` prints settings for a key of `us-east1`. They are accepted, though the key covers neither
of the first two zones and does cover the third, and a plane refuses the first cluster. -/
theorem misplaced_key_is_accepted :
    let key := "projects/p/locations/us-east1/keyRings/r/cryptoKeys/k"
    let name : KeyName := ⟨"p", "us-east1", "r", "k"⟩
    let settings := scaffold "p" key
    let init : InitOptions := ⟨"p", key⟩
    let printed := session ⟨7, fun _ => .error .missing, fun _ => none⟩ init.arguments
    let ids := ScenarioIds.ofRun "cmek-it-" .instanceCluster 7
    printed.code = 0 ∧ ofToml printed.output = .ok settings ∧ settings.validate 7 = .ok () ∧
      KeyName.parse settings.key = .ok name ∧ name.covers settings.primaryZone = false ∧
      name.covers settings.siblingZone = false ∧ name.covers settings.foreignZone = true ∧
      settings.RefusedIn "p" settings.primaryZone
        (settings.askForClusters ids ((Handle.plain "p").client 7) .empty).first := by
  intro key name settings init printed ids
  have readsKey : KeyName.parse key = .ok name := KeyName.parse_eq_ok_iff.mpr ⟨by decide, by decide⟩
  have early : (timeAfter? 7 usualBackupLifetime).isSome := by decide
  have accepted : settings.validate 7 = .ok () :=
    (validate_scaffold_iff early).mpr ⟨by decide, name, readsKey⟩
  have asked : Invocation.read init.arguments = .ok (.init init) := init.read_arguments
  have succeeded : printed.code = 0 := (init.code_session_iff asked).mpr accepted
  have reads : ofToml printed.output = .ok settings := init.of_toml_output asked succeeded
  have outside : name.covers settings.primaryZone = false := by decide
  exact ⟨succeeded, reads, accepted, readsKey, outside, by decide, by decide,
    settings.refused_in_primary (Handle.plain "p") 7 .empty ids readsKey outside⟩

end Settings

end CustomerKeys
