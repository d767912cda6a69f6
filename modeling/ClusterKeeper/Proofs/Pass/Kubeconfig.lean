import ClusterKeeper.Proofs.Pass.Interruption
import ClusterKeeper.Proofs.Settling.Site
import ClusterKeeper.Proofs.Text.Base64
/-!
The kubeconfig in its secret.

A secret that is missing is made, one that has other octets is amended, and one that has the
kubeconfig is left alone, so that nothing is written a second time. The provider's answer is looked
at first: where it is no kubeconfig the secrets are not touched. An amendment sets the one entry and
sends all else as it was found.
-/

namespace ClusterKeeper

open Dialogue (returning)

variable {σ : Type} {cluster : ClusterDeclaration} {octets : Octets} {v v' : Vault}
  {calls : List Call}

namespace Secret

/-- The secret has the octets beside the key, and is like the other in all else. -/
structure Amends (key : String) (octets : Octets) (old new : Secret) : Prop where
  entry : new.entry? key = some octets
  others : ∀ other, other ≠ key → new.entry? other = old.entry? other
  metadata : new.metadata = old.metadata
  stringData : new.stringData = old.stringData
  type : new.type = old.type
  immutable : new.immutable = old.immutable

theorem amends_withEntry (secret : Secret) (key : String) (octets : Octets) :
    Amends key octets secret (secret.withEntry key octets) where
  entry := secret.octets_withEntry key octets
  others := by
    intro other hother
    have hinsert : Secret.entry? (secret.withEntry key octets) other =
        (secret.data.getD KeyMap.empty).get? other := by
      change KeyMap.get? (KeyMap.insert _ key octets) other = _
      rw [KeyMap.get?_insert, if_neg (Ne.symm hother)]
    rw [hinsert, entry?]
    cases secret.data <;> rfl
  metadata := rfl
  stringData := rfl
  type := rfl
  immutable := rfl

end Secret

namespace Vault

/-- The secret of the cluster. -/
def secretOf (v : Vault) (cluster : ClusterDeclaration) : Option Secret :=
  v.find cluster.inNamespace (Credentials.secretName cluster.name)

/-- A secret is written. The server keeps its data and its marks, and may fill in the rest. -/
def Accepts (v : Vault) (inNamespace : String) (sent : Secret) (v' : Vault) : Prop :=
  ∃ stored, stored.metadata.anyName = sent.metadata.anyName ∧ stored.data = sent.data ∧
    stored.metadata.labels = sent.metadata.labels ∧
    stored.metadata.ownerReferences = sent.metadata.ownerReferences ∧ v' = v.put inNamespace stored

theorem Accepts.stores {inNamespace : String} {sent : Secret} (h : v.Accepts inNamespace sent v') :
    v.Stores inNamespace sent v' := by
  obtain ⟨stored, hname, hdata, _, _, hplace⟩ := h
  exact ⟨stored, hname, hdata, hplace⟩

/-- The secrets can be read and written, and nobody else writes them. -/
def Works : Conduct Vault := fun v c response v' =>
  match c with
  | .getSecret inNamespace name => response.reply = .ok (v.find inNamespace name) ∧ v' = v
  | .createSecret inNamespace sent => v.find inNamespace sent.metadata.anyName = none →
      response.reply = .ok () ∧ v.Accepts inNamespace sent v'
  | .replaceSecret inNamespace sent => v.find inNamespace sent.metadata.anyName ≠ none →
      response.reply = .ok () ∧ v.Accepts inNamespace sent v'
  | _ => v' = v

theorem secretOf_put {sent : Secret}
    (hname : sent.metadata.anyName = Credentials.secretName cluster.name) :
    (v.put cluster.inNamespace sent).secretOf cluster = some sent :=
  if_pos ⟨rfl, hname.symm⟩

end Vault

namespace Credentials

/-- A new secret of the cluster has the kubeconfig, and the marks of a secret that was made here. -/
structure IsFirst (cluster : ClusterDeclaration) (octets : Octets) (sent : Secret) : Prop where
  name : sent.metadata.name = some (secretName cluster.name)
  inNamespace : sent.metadata.inNamespace = some cluster.inNamespace
  entry : sent.entry? entryName = some octets
  labels : sent.metadata.labels = some (KeyMap.ofList [(managerLabel, managerName)])
  ownerReferences : sent.metadata.ownerReferences =
    cluster.ownerReference?.map fun reference => [reference]

theorem isFirst_newSecret (cluster : ClusterDeclaration) (octets : Octets) :
    IsFirst cluster octets (newSecret cluster octets) :=
  ⟨rfl, rfl, kubeconfig_newSecret cluster octets, rfl, rfl⟩

theorem IsFirst.anyName_eq {sent : Secret} (h : IsFirst cluster octets sent) :
    sent.metadata.anyName = secretName cluster.name := by
  rw [Metadata.anyName, h.name]
  rfl

/-- What is done about the secret: the calls that are made, and the secrets after them. -/
inductive Maintains (cluster : ClusterDeclaration) (octets : Octets) (v : Vault) :
    List Call → Vault → Prop where
  | held {secret : Secret} : v.secretOf cluster = some secret →
      secret.entry? entryName = some octets →
      Maintains cluster octets v [.getSecret cluster.inNamespace (secretName cluster.name)] v
  | made {sent : Secret} {v' : Vault} : v.secretOf cluster = none → IsFirst cluster octets sent →
      v.Accepts cluster.inNamespace sent v' →
      Maintains cluster octets v [.getSecret cluster.inNamespace (secretName cluster.name),
        .createSecret cluster.inNamespace sent] v'
  | amended {old sent : Secret} {v' : Vault} : v.secretOf cluster = some old →
      old.entry? entryName ≠ some octets → Secret.Amends entryName octets old sent →
      v.Accepts cluster.inNamespace sent v' →
      Maintains cluster octets v [.getSecret cluster.inNamespace (secretName cluster.name),
        .replaceSecret cluster.inNamespace sent] v'

namespace Maintains

/-- Afterwards the secret has the kubeconfig. -/
theorem holds (h : Maintains cluster octets v calls v') : v'.Holds cluster octets := by
  cases h with
  | held hfound hentry => exact ⟨_, hfound, hentry⟩
  | made _ hfirst haccepts => exact haccepts.stores.holds hfirst.anyName_eq hfirst.entry
  | @amended old sent _ hfound _ hamends haccepts =>
      have hname : sent.metadata.anyName = secretName cluster.name := by
        rw [hamends.metadata]
        exact v.named _ _ old hfound
      exact haccepts.stores.holds hname hamends.entry

/-- A secret that has something else is amended, once. -/
theorem of_stale {old : Secret} (h : Maintains cluster octets v calls v')
    (hfound : v.secretOf cluster = some old) (hstale : old.entry? entryName ≠ some octets) :
    ∃ sent, calls = [.getSecret cluster.inNamespace (secretName cluster.name),
        .replaceSecret cluster.inNamespace sent] ∧
      Secret.Amends entryName octets old sent := by
  cases h with
  | held hsecret hentry =>
      cases hsecret.symm.trans hfound
      exact (hstale hentry).elim
  | made hnone => cases hnone.symm.trans hfound
  | amended hsecret _ hamends _ =>
      cases hsecret.symm.trans hfound
      exact ⟨_, rfl, hamends⟩

/-- Where the secret has the kubeconfig nothing is written. -/
theorem of_holds (h : Maintains cluster octets v calls v') (hholds : v.Holds cluster octets) :
    calls = [.getSecret cluster.inNamespace (secretName cluster.name)] ∧ v' = v := by
  obtain ⟨secret, hsecret, hentry⟩ := hholds
  change v.secretOf cluster = some secret at hsecret
  cases h with
  | held _ _ => exact ⟨rfl, rfl⟩
  | made hfound _ _ =>
      rw [hsecret] at hfound
      cases hfound
  | amended hfound hother _ _ =>
      rw [hsecret] at hfound
      cases hfound
      exact absurd hentry hother

end Maintains

theorem ensures_store (cluster : ClusterDeclaration) (octets : Octets) (scene : Scene Vault) :
    Step.Ensures Vault.Works (store cluster octets) (returning fun _ scene' => ∃ calls,
      Maintains cluster octets scene.state calls scene'.state ∧
        scene'.calls = scene.calls ++ calls) scene := by
  have hget : Step.Ensures Vault.Works
      (Step.fallible (Call.getSecret cluster.inNamespace (secretName cluster.name)).ask)
      (returning fun found scene' => found = scene.state.secretOf cluster ∧
        scene'.state = scene.state ∧
        scene'.calls = scene.calls ++ [.getSecret cluster.inNamespace (secretName cluster.name)])
      scene := by
    rintro response _ ⟨hreply, rfl⟩
    rw [hreply]
    exact ⟨rfl, rfl, Scene.calls_after _ _ _ _ _⟩
  refine hget.seq ?_
  rintro found scene' ⟨rfl, hstate, hcalls⟩
  cases hfound : scene.state.secretOf cluster with
  | none =>
      rintro response v' hworks
      rw [hstate] at hworks
      obtain ⟨hreply, haccepts⟩ := hworks hfound
      rw [hreply]
      refine ⟨_, .made hfound (isFirst_newSecret cluster octets) haccepts, ?_⟩
      rw [Scene.calls_after, hcalls, List.append_assoc]
      rfl
  | some old =>
      dsimp only
      split
      · next hentry =>
          refine ⟨_, ?_, hcalls⟩
          rw [hstate]
          exact .held hfound hentry
      · next hother =>
          rintro response v' hworks
          have hplace : scene.state.find cluster.inNamespace old.metadata.anyName ≠ none := by
            rw [scene.state.named _ _ old hfound]
            change scene.state.secretOf cluster ≠ none
            rw [hfound]
            exact Option.some_ne_none old
          rw [hstate] at hworks
          obtain ⟨hreply, haccepts⟩ := hworks hplace
          rw [hreply]
          refine ⟨_, .amended hfound hother (old.amends_withEntry entryName octets) haccepts, ?_⟩
          rw [Scene.calls_after, hcalls, List.append_assoc]
          rfl

theorem exists_decode_eq_error {kubeconfig : EncodedKubeconfig}
    (h : ∀ octets : Octets, ¬ Text.Wraps kubeconfig.content octets.toList) :
    ∃ message, decode kubeconfig = .error (.serialization message) := by
  cases hdecode : Text.Base64.decode (Text.trim kubeconfig.content) with
  | ok octets => exact absurd (Text.decode_trim_eq_ok_iff.mp hdecode) (h ⟨octets⟩)
  | error flaw => exact ⟨_, by rw [decode, hdecode]⟩

/-- What is done with the answer of the provider. -/
def keep (cluster : ClusterDeclaration) : Except ProviderFault EncodedKubeconfig → Step Bool
  | .error .notAvailable => return false
  | .error cause => throw (.provider "get kubeconfig" cause)
  | .ok kubeconfig => do
      let octets ← liftExcept (decode kubeconfig)
      store cluster octets
      return true

theorem keep_readable {kubeconfig : EncodedKubeconfig} (h : decode kubeconfig = .ok octets) :
    keep cluster (.ok kubeconfig) = do
      store cluster octets
      return true := by
  rw [keep, h]
  rfl

theorem keep_unreadable {kubeconfig : EncodedKubeconfig} {fault : Fault}
    (h : decode kubeconfig = .error fault) :
    keep cluster (.ok kubeconfig) = throw fault := by
  rw [keep, h]
  rfl

theorem keep_error {cause : ProviderFault} (h : cause ≠ .notAvailable) :
    keep cluster (.error cause) = throw (.provider "get kubeconfig" cause) := by
  cases cause with
  | notAvailable => exact absurd rfl h
  | _ => rfl

/-- A kubeconfig that can be read is maintained. -/
theorem ensures_keep (cluster : ClusterDeclaration) {kubeconfig : EncodedKubeconfig}
    (hdecode : decode kubeconfig = .ok octets) (scene : Scene Vault) :
    Step.Ensures Vault.Works (keep cluster (.ok kubeconfig))
      (returning fun synced scene' => synced = true ∧ ∃ calls,
        Maintains cluster octets scene.state calls scene'.state ∧
          scene'.calls = scene.calls ++ calls) scene := by
  rw [keep_readable hdecode]
  refine (ensures_store cluster octets scene).seq ?_
  rintro _ scene' hmaintains
  exact ⟨rfl, hmaintains⟩

end Credentials

namespace World

variable {world : World σ} {view : σ → Vault} {scene : Scene σ} {id : ClusterId}
  {kubeconfig : EncodedKubeconfig}

/-- What the provider answers when it is asked for the kubeconfig. -/
def handedOut (world : World σ) (id : ClusterId) (scene : Scene σ) :
    Except ProviderFault EncodedKubeconfig :=
  (world.answerCall (.getKubeconfig id) scene).1

/-- The answer of the provider comes first. -/
theorem runCalls_sync (world : World σ) (cluster : ClusterDeclaration) (id : ClusterId)
    (scene : Scene σ) :
    world.runCalls (Credentials.sync cluster id).run scene =
      world.runCalls (Credentials.keep cluster (world.handedOut id scene)).run
        (world.answerCall (.getKubeconfig id) scene).2 := by
  have hsync : (Credentials.sync cluster id).run =
      .ask (Call.getKubeconfig id) fun reply => (Credentials.keep cluster reply).run := by
    refine congrArg (Dialogue.ask (Call.getKubeconfig id)) (funext fun reply => ?_)
    rcases (reply : Except ProviderFault EncodedKubeconfig) with cause | kubeconfig
    · cases cause <;> rfl
    · rfl
  rw [hsync]
  rfl

/-- Where the answer decides, the secrets are not touched. -/
theorem runCalls_sync_of_keep (cluster : ClusterDeclaration) {result : Except Fault Bool}
    (h : (Credentials.keep cluster (world.handedOut id scene)).run = .done result) :
    let run := world.runCalls (Credentials.sync cluster id).run scene
    run.1 = result ∧ run.2.calls = scene.calls ++ [.getKubeconfig id] := by
  dsimp only
  rw [runCalls_sync, h]
  exact ⟨rfl, Scene.calls_after _ _ _ _ _⟩

/-- Where it is a kubeconfig, that is maintained. -/
theorem runCalls_sync_of_decode (cluster : ClusterDeclaration)
    (hworks : world.Keeps view Vault.Works) (hreply : world.handedOut id scene = .ok kubeconfig)
    (hdecode : Credentials.decode kubeconfig = .ok octets) :
    let run := world.runCalls (Credentials.sync cluster id).run scene
    run.1 = .ok true ∧ ∃ calls,
      Credentials.Maintains cluster octets (view scene.state) calls (view run.2.state) ∧
        run.2.calls = scene.calls ++ .getKubeconfig id :: calls := by
  have hstate : view (world.answerCall (.getKubeconfig id) scene).2.state = view scene.state :=
    hworks (.getKubeconfig id) scene.state
  have hcalls : (world.answerCall (.getKubeconfig id) scene).2.calls =
      scene.calls ++ [.getKubeconfig id] := Scene.calls_after _ _ _ _ _
  have hpost := world.runCalls_of_ensures hworks <| Credentials.ensures_keep cluster hdecode
    ((world.answerCall (.getKubeconfig id) scene).2.through view)
  rw [← hreply, ← runCalls_sync] at hpost
  intro run
  change returning _ run.1 (run.2.through view) at hpost
  cases hresult : run.1 with
  | error fault =>
      rw [hresult] at hpost
      exact hpost.elim
  | ok synced =>
      rw [hresult] at hpost
      obtain ⟨rfl, calls, hmaintains, hafter⟩ := hpost
      refine ⟨rfl, calls, hstate ▸ hmaintains, ?_⟩
      rw [← List.singleton_append, ← List.append_assoc, ← hcalls]
      exact hafter

end World

/-- What becomes of the secret is decided by the answer of the provider and by the secret that is
found. -/
theorem kubeconfig_brought_up_to_date (world : World σ) (cluster : ClusterDeclaration)
    (id : ClusterId) (scene : Scene σ) :
    let run := world.runCalls (Credentials.sync cluster id).run scene
    (world.handedOut id scene = .error .notAvailable →
      run.1 = .ok false ∧ run.2.calls = scene.calls ++ [.getKubeconfig id]) ∧
    (∀ cause, cause ≠ .notAvailable → world.handedOut id scene = .error cause →
      run.1 = .error (.provider "get kubeconfig" cause) ∧
        run.2.calls = scene.calls ++ [.getKubeconfig id]) ∧
    (∀ kubeconfig, world.handedOut id scene = .ok kubeconfig →
      (∀ octets : Octets, ¬ Text.Wraps kubeconfig.content octets.toList) →
      (∃ message, run.1 = .error (.serialization message)) ∧
        run.2.calls = scene.calls ++ [.getKubeconfig id]) ∧
    ∀ (view : σ → Vault) (kubeconfig : EncodedKubeconfig) (octets : Octets),
      world.Keeps view Vault.Works → world.handedOut id scene = .ok kubeconfig →
      Text.Wraps kubeconfig.content octets.toList →
      run.1 = .ok true ∧ (view run.2.state).Holds cluster octets ∧
        (∃ calls, Credentials.Maintains cluster octets (view scene.state) calls
          (view run.2.state) ∧ run.2.calls = scene.calls ++ .getKubeconfig id :: calls) ∧
        ∀ later, world.handedOut id run.2 = .ok later → Text.Wraps later.content octets.toList →
          let again := world.runCalls (Credentials.sync cluster id).run run.2
          again.1 = .ok true ∧ view again.2.state = view run.2.state ∧
            again.2.calls = run.2.calls ++ [.getKubeconfig id,
              .getSecret cluster.inNamespace (Credentials.secretName cluster.name)] := by
  intro run
  refine ⟨?_, ?_, ?_, ?_⟩
  · intro hreply
    apply World.runCalls_sync_of_keep
    rw [hreply]
    rfl
  · intro cause hcause hreply
    apply World.runCalls_sync_of_keep
    rw [hreply, Credentials.keep_error hcause]
    rfl
  · intro kubeconfig hreply hwraps
    obtain ⟨message, hdecode⟩ := Credentials.exists_decode_eq_error hwraps
    have hkeep : (Credentials.keep cluster (world.handedOut id scene)).run =
        .done (.error (.serialization message)) := by
      rw [hreply, Credentials.keep_unreadable hdecode]
      rfl
    obtain ⟨hresult, hcalls⟩ := World.runCalls_sync_of_keep cluster hkeep
    exact ⟨⟨message, hresult⟩, hcalls⟩
  · intro view kubeconfig octets hworks hreply hwraps
    have hdecode := Credentials.decode_eq_ok_iff.mpr hwraps
    obtain ⟨hresult, calls, hmaintains, hcalls⟩ :=
      World.runCalls_sync_of_decode cluster hworks hreply hdecode
    refine ⟨hresult, hmaintains.holds, ⟨calls, hmaintains, hcalls⟩, ?_⟩
    intro later hlater hlaterWraps again
    obtain ⟨hagain, more, hleft, hmore⟩ := World.runCalls_sync_of_decode cluster hworks hlater
      (Credentials.decode_eq_ok_iff.mpr hlaterWraps)
    -- The first run left the kubeconfig in the secret, so the second only looks.
    obtain ⟨rfl, hsame⟩ := hleft.of_holds hmaintains.holds
    exact ⟨hagain, hsame, hmore⟩

/-- The secrets, and a provider that always answers the same. -/
def courierWorld (handed : Except ProviderFault EncodedKubeconfig) : World Vault where
  respond := fun
    | .getKubeconfig _, v => (promptly handed, v)
    | .getSecret inNamespace name, v => (promptly (.ok (v.find inNamespace name)), v)
    | .createSecret inNamespace sent, v => (promptly (.ok ()), v.put inNamespace sent)
    | .replaceSecret inNamespace sent, v => (promptly (.ok ()), v.put inNamespace sent)
    | c, v => (promptly c.unreached, v)

theorem courierWorld_works (handed : Except ProviderFault EncodedKubeconfig) :
    (courierWorld handed).Keeps id Vault.Works := by
  intro c v
  cases c with
  | getSecret inNamespace name => exact ⟨rfl, rfl⟩
  | createSecret inNamespace sent => exact fun _ => ⟨rfl, sent, rfl, rfl, rfl, rfl, rfl⟩
  | replaceSecret inNamespace sent => exact fun _ => ⟨rfl, sent, rfl, rfl, rfl, rfl, rfl⟩
  | _ => rfl

/-- One secret, in its namespace. -/
def soloVault (secret : Secret) : Vault where
  find := fun inNamespace name =>
    if some inNamespace = secret.metadata.inNamespace ∧ name = secret.metadata.anyName then
      some secret
    else none
  named := by
    intro inNamespace name found hfound
    split at hfound
    · next hplace =>
        cases hfound
        exact hplace.2.symm
    · cases hfound

/-- What the server says of the fields that somebody else has set. -/
def foreignFields : ManagedFields where
  apiVersion := some "v1"
  fieldsType := some "FieldsV1"
  fieldsV1 := some ⟨.object [("f:data", .object [("f:note", .object [])])]⟩
  manager := some "kubectl"
  operation := some "Update"
  subresource := none
  time := some ⟨1704157445, false⟩

/-- A secret of the workshop that somebody else made, with an old kubeconfig. -/
def staleSecret : Secret where
  metadata :=
    { Metadata.blank with
      name := some "workshop-kubeconfig"
      inNamespace := some "default"
      resourceVersion := some "42"
      selfLink := some "/api/v1/namespaces/default/secrets/workshop-kubeconfig"
      managedFields := some [foreignFields] }
  data := some (KeyMap.ofList [("kubeconfig", ⟨[111, 108, 100]⟩), ("note", ⟨[107]⟩)])
  stringData := none
  type := some "Opaque"
  immutable := none

/-- A kubeconfig with white space around it. -/
def spacedKubeconfig : EncodedKubeconfig := ⟨"\u2003a3ViZQ==\n"⟩

theorem wraps_spacedKubeconfig :
    Text.Wraps spacedKubeconfig.content (Octets.mk [107, 117, 98, 101]).toList :=
  Text.decode_trim_eq_ok_iff.mp (by decide +kernel)

/-- The old kubeconfig is replaced once, and the secret is sent back whole. A provider that has none
or fails, and one that leaves out the padding, are the end of it. -/
theorem stale_secret_brought_up_to_date :
    let scene : Scene Vault := .start false .blank (soloVault staleSecret)
    let attempt := fun handed =>
      (courierWorld handed).runCalls (Credentials.sync workshop 42).run scene
    let run := attempt (.ok spacedKubeconfig)
    let again := (courierWorld (.ok spacedKubeconfig)).runCalls (Credentials.sync workshop 42).run
      run.2
    (attempt (.error .notAvailable)).1 = .ok false ∧
      (attempt (.error (.transport "unreachable"))).1 =
        .error (.provider "get kubeconfig" (.transport "unreachable")) ∧
      (∃ message, (attempt (.ok ⟨"a3ViZQ"⟩)).1 = .error (.serialization message)) ∧
      run.1 = .ok true ∧ run.2.state.Holds workshop ⟨[107, 117, 98, 101]⟩ ∧
      (∃ sent, run.2.calls = [.getKubeconfig 42, .getSecret "default" "workshop-kubeconfig",
          .replaceSecret "default" sent] ∧
        sent.metadata = staleSecret.metadata ∧ sent.type = some "Opaque" ∧
        sent.entry? "kubeconfig" = some ⟨[107, 117, 98, 101]⟩ ∧
        sent.entry? "note" = some ⟨[107]⟩) ∧
      again.2.calls = run.2.calls ++
        [.getKubeconfig 42, .getSecret "default" "workshop-kubeconfig"] := by
  intro scene attempt run again
  have hunpadded : ∀ octets : Octets, ¬ Text.Wraps "a3ViZQ" octets.toList := by
    intro octets hwraps
    have hdecode := Text.decode_trim_eq_ok_iff.mpr hwraps
    have hflaw : (Text.Base64.decode (Text.trim "a3ViZQ")).isOk = false := by decide +kernel
    rw [hdecode] at hflaw
    cases hflaw
  have hoff := (kubeconfig_brought_up_to_date (courierWorld (.error .notAvailable)) workshop 42
    scene).1 rfl
  have hfailed := (kubeconfig_brought_up_to_date (courierWorld (.error (.transport "unreachable")))
    workshop 42 scene).2.1 _ (by decide) rfl
  have hunread := (kubeconfig_brought_up_to_date (courierWorld (.ok ⟨"a3ViZQ"⟩)) workshop 42
    scene).2.2.1 _ rfl hunpadded
  obtain ⟨hresult, hholds, ⟨calls, hmaintains, hcalls⟩, hagain⟩ :=
    (kubeconfig_brought_up_to_date (courierWorld (.ok spacedKubeconfig)) workshop 42
      scene).2.2.2 id spacedKubeconfig _ (courierWorld_works _) rfl wraps_spacedKubeconfig
  refine ⟨hoff.1, hfailed.1, hunread.1, hresult, hholds, ?_,
    (hagain spacedKubeconfig rfl wraps_spacedKubeconfig).2.2⟩
  have hfound : (soloVault staleSecret).secretOf workshop = some staleSecret := by decide +kernel
  have hnote : staleSecret.entry? "note" = some ⟨[107]⟩ := by decide +kernel
  obtain ⟨sent, rfl, hamends⟩ := hmaintains.of_stale hfound (by decide +kernel)
  exact ⟨sent, hcalls, hamends.metadata, hamends.type, hamends.entry,
    (hamends.others "note" (by decide +kernel)).trans hnote⟩

end ClusterKeeper
