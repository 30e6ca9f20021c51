import OmarchySync.Runtime.Gate

/-!
# Prompts under all interleavings

A peer whose pairing has failed and left nothing behind is not answered again before its cooldown
is over, and a peer that the store has once known is answered without the user.
-/

namespace OmarchySync

open Logic Wire Traced

section Spacing

variable [Crypto] [Noise] [Serde]

namespace Daemon

/-- The listener has dismissed a caller it does not know. -/
def Dismisses (rt : Runtime) (m : Moment) (id : Text) : Prop :=
  ∃ look peer result, m.action = .release 0 look ∧
    m.before.tasks 0 = some (.running peer [] result) ∧ peer.discovery.deviceId = id ∧
    rt.guardRetries look m.before.host peer result = true

omit [Serde] in
/-- The listener is let in to answer a caller. -/
def Answers (m : Moment) (id : Text) : Prop :=
  ∃ start broker around peer, m.action = .call start broker around ∧
    m.before.called = some peer ∧ peer.discovery.deviceId = id ∧
    (m.before.coordinator.enter m.now id).1 = true

omit [Serde] in
/-- The dismissal of a caller is remembered by the listener, then by the cooldown, until it is
over. -/
def Resting (d : Daemon) (id : Text) (dismissed : Instant) : Prop :=
  d.tasks 0 = some (.leaving id dismissed) ∨
    (∃ deadline, d.coordinator.cooldown.lookup id = some deadline ∧
      dismissed + pairCooldown ≤ deadline) ∨ dismissed + pairCooldown ≤ d.clock

variable [AppSerde] {rt : Runtime} {host : Host} {past : List Moment} {d d' : Daemon}
  {now : Instant} {action : Action} {id : Text} {dismissed : Instant}

/-- Whatever the threads do, a dismissal is not forgotten too early. -/
theorem Effect.resting {c : PairCoordinator} {g : Host} {tasks : ℕ → Option Task}
    (heffect : Effect rt d now c g tasks) (hnow : d.clock ≤ now) (hpast : dismissed ≤ d.clock)
    (h : d.Resting id dismissed) (d' : Daemon) (hc : d'.coordinator = c) (htasks : d'.tasks = tasks)
    (hclock : d'.clock = now) : d'.Resting id dismissed := by
  have hover : dismissed + pairCooldown ≤ now → d'.Resting id dismissed :=
    fun hle => .inr (.inr (hclock ▸ hle))
  have henter : ∀ peer : CachedPeer, c = (d.coordinator.enter now peer.discovery.deviceId).2 →
      (∃ deadline, d.coordinator.cooldown.lookup id = some deadline ∧
        dismissed + pairCooldown ≤ deadline) → d'.Resting id dismissed := by
    intro peer hcoordinator hstored
    obtain ⟨deadline, hdeadline, hle⟩ := hstored
    rcases PairCoordinator.enter_lookup now peer.discovery.deviceId hdeadline with hkept | hend
    · right
      left
      rw [hc, hcoordinator]
      exact ⟨deadline, hkept, hle⟩
    · exact hover (hle.trans hend)
  -- another thread than the resting listener moves
  have hother : ∀ w task, d.tasks w ≠ some (.leaving id dismissed) →
      tasks = Function.update d.tasks w task → d.tasks 0 = some (.leaving id dismissed) →
      d'.Resting id dismissed := by
    intro w task hw hupdate hleaving
    have hne : 0 ≠ w := fun heq => hw (heq ▸ hleaving)
    left
    rw [htasks, hupdate, Function.update_of_ne hne, hleaving]
  have hkept : c.cooldown = d.coordinator.cooldown →
      (∃ deadline, d.coordinator.cooldown.lookup id = some deadline ∧
        dismissed + pairCooldown ≤ deadline) → d'.Resting id dismissed := by
    intro hsame hstored
    right
    left
    rw [hc, hsame]
    exact hstored
  rcases h with hleaving | hstored | hle
  · cases heffect with
    | nothing => exact .inl (htasks ▸ hleaving)
    | refused hidle hout => exact .inl (htasks ▸ hleaving)
    | entered hidle _ _ => exact hother _ _ (by simp [hidle]) rfl hleaving
    | begun htask => exact hother _ _ (by simp [htask]) rfl hleaving
    | wrote htask => exact hother _ _ (by simp [htask]) rfl hleaving
    | released _ htask => exact hother _ _ (by simp [htask]) rfl hleaving
    | @cooled w id' released htask =>
        by_cases heq : w = 0
        · -- the listener stores the cooldown itself
          rw [heq, hleaving] at htask
          cases htask
          right
          left
          rw [hc]
          exact ⟨_, AList.lookup_insert _, Nat.add_le_add_right (hpast.trans hnow) _⟩
        · left
          rw [htasks, Function.update_of_ne (Ne.symm heq), hleaving]
  · cases heffect with
    | nothing => exact hkept rfl hstored
    | refused _ _ => exact henter _ rfl hstored
    | entered _ _ _ => exact henter _ rfl hstored
    | begun _ => exact hkept rfl hstored
    | wrote _ => exact hkept rfl hstored
    | released _ _ => exact hkept rfl hstored
    | @cooled w id' released htask =>
        right
        left
        rw [hc]
        by_cases heq : id = id'
        · -- a later cooldown of the same peer ends later
          subst heq
          exact ⟨_, AList.lookup_insert _, Nat.add_le_add_right (hpast.trans hnow) _⟩
        · obtain ⟨deadline, hdeadline, hle⟩ := hstored
          exact ⟨deadline, (AList.lookup_insert_ne heq).trans hdeadline, hle⟩
  · exact hover (hle.trans hnow)

private theorem Step.resting (hstep : Step rt d now action d')
    (hdismisses : Dismisses rt ⟨d, action, now⟩ id) :
    Resting (d'.tick now) id now := by
  obtain ⟨look, peer, result, rfl, htask, rfl, hretries⟩ := hdismisses
  cases hstep with
  | release htask' =>
      rw [htask] at htask'
      cases htask'
      left
      simp only [Daemon.release, setTask, tick_tasks, Function.update_self, Runtime.retries, hretries,
        if_true]

theorem Run.resting (hrun : Run rt host past d) :
    ∀ m ∈ past, ∀ id, Dismisses rt m id → m.now ≤ d.clock ∧ d.Resting id m.now := by
  induction hrun with
  | start =>
      intro m hm
      cases hm
  | @act past d now action d' _ hnow hstep ih =>
      intro m hm id hdismisses
      rcases List.mem_append.mp hm with hearlier | hlast
      · obtain ⟨hpast, hresting⟩ := ih m hearlier id hdismisses
        exact ⟨hpast.trans hnow, hstep.effect.resting hnow hpast hresting _ rfl rfl rfl⟩
      · rw [List.mem_singleton.mp hlast] at hdismisses ⊢
        exact ⟨le_refl _, hstep.resting hdismisses⟩

/-- Between the dismissal of a caller and its next answer lies the whole cooldown. -/
def Spaced (rt : Runtime) (before : List Moment) (m : Moment) : Prop :=
  ∀ id, Answers m id → ∀ m' ∈ before, Dismisses rt m' id → m'.now + pairCooldown ≤ m.now

theorem answers_spaced (hrun : Run rt host past d) : Throughout (Spaced rt) past := by
  induction hrun with
  | start => exact throughout_nil
  | @act past d now action d' hrun hnow hstep ih =>
      rw [throughout_append]
      refine ⟨ih, ?_, trivial⟩
      intro id hanswers m' hm' hdismisses
      obtain ⟨start, broker, around, peer, rfl, -, -, hentered⟩ := hanswers
      obtain ⟨-, hresting⟩ := hrun.resting m' hm' id hdismisses
      have hfree := (PairCoordinator.enter_eq_true ..).mp hentered
      rcases hresting with hleaving | ⟨deadline, hdeadline, hle⟩ | hover
      · cases hstep with
        | call hidle _ =>
            rw [hidle] at hleaving
            cases hleaving
      · exact hle.trans (hfree.2 deadline hdeadline)
      · exact hover.trans hnow

end Daemon

section Known

variable [AppSerde] [LawfulSerde] {rt : Runtime} {host : Host} {past : List Moment} {d : Daemon}
  {now : Instant} {first second : Text} {peer : CachedPeer}

private theorem runInitiator_knows {os : Opening} {env env' : Env} {stream : Bytes} {h : Host} :
    Keeps (fun _ a b => a.Knows first second → b.Knows first second)
      (runInitiator rt os env env' stream) (fun _ _ => True) h := by
  have hfinal : ∀ store session complete stream h,
      Keeps (fun _ a b => a.Knows first second → b.Knows first second)
        (awaitFinalized rt env' store session complete stream) (fun _ _ => True) h := by
    intro store session complete stream h
    simp only [awaitFinalized, keeps_lift_bind, implies_true, and_true]
    intro received _ _ _
    rw [keeps_bind]
    have hreconcile : Keeps (fun _ a b => a.Knows first second → b.Knows first second)
        (store.reconcile env' received.2.1 rt.identity complete) (fun _ _ => True) h :=
      Op.keeps_knows (.reconcile received.2.1 complete) fun _ hop => by cases hop
    refine ((keeps_relabel _ _).mpr hreconcile).post ?_
    intro r g _
    cases r with
    | error e => trivial
    | ok u => exact (keeps_pure _).mpr trivial
  have hcomplete : ∀ store session record h,
      Keeps (fun _ a b => a.Knows first second → b.Knows first second)
        (completeRecord rt env store session record) (fun _ _ => True) h := by
    intro store session record h
    simp only [completeRecord, keeps_read_bind, keeps_lift_bind, implies_true, and_true]
    intro found _
    cases found.filter (·.isComplete) with
    | some pending => simp only [keeps_lift_bind, keeps_pure, implies_true, and_true]
    | none =>
        dsimp only
        rw [keeps_ite]
        refine ⟨fun _ => (keeps_pure _).mpr trivial, fun _ => ?_⟩
        apply (keeps_forget_iff (I := fun _ => True)).mp
        exact Op.keeps_knows (.coSign session record) fun _ hop => by cases hop
  simp only [runInitiator, keeps_read_bind, keeps_lift_bind, implies_true, and_true]
  intro opened _ authenticated _
  rw [keeps_bind]
  refine keeps_send (fun _ _ => ⟨id, ?_⟩) fun _ => trivial
  simp only [keeps_lift_bind, implies_true, and_true]
  intro received _
  cases received.1 with
  | complete bytes =>
      simp only [keeps_lift_bind, implies_true, and_true]
      exact fun _ _ _ _ => hfinal ..
  | prepared bytes =>
      simp only [keeps_lift_bind, implies_true, and_true]
      intro record _
      rw [keeps_bind]
      refine ((keeps_relabel _ _).mpr (hcomplete _ _ record _)).post ?_
      intro r g _
      cases r with
      | error e => trivial
      | ok complete =>
          simp only [keeps_lift_bind, implies_true, and_true]
          intro _ _
          rw [keeps_bind]
          exact keeps_send (fun _ _ => ⟨id, hfinal ..⟩) fun _ => trivial
  | _ => exact (keeps_lift _).mpr trivial

private theorem Runtime.Drives.knows {driver : DriverM AuthenticatedPairingSession}
    (hdriver : rt.Drives driver) (h : Host) :
    Keeps (fun _ a b => a.Knows first second → b.Knows first second) driver (fun _ _ => True) h := by
  cases hdriver with
  | initiates peer around =>
      simp only [Runtime.initiates]
      split
      · exact (keeps_lift _).mpr trivial
      · exact runInitiator_knows
  | responds peer start broker around =>
      simp only [Runtime.responds]
      split
      · exact (keeps_lift _).mpr trivial
      · exact runResponderWithStart_knows first second

namespace Daemon

private theorem Effect.knows {c : PairCoordinator} {g : Host} {tasks : ℕ → Option Task}
    (heffect : Effect rt d now c g tasks) (h : d.Serial rt host)
    (hknows : d.host.Knows first second) : g.Knows first second := by
  cases heffect with
  | @wrote w peer l g rest result htask =>
      obtain ⟨h₀, driver, done, -, hdriver, hvisited, -, hhost⟩ := h.busy w _ _ _ htask
      have hkeeps : Keeps (fun _ a b => a.Knows first second → b.Knows first second) driver
          (fun _ _ => True) h₀ := hdriver.knows h₀
      have hpath := hkeeps.1
      rw [hvisited, path_append, ← hhost] at hpath
      exact hpath.2.1 hknows
  | _ => exact hknows

private theorem Run.knows (hrun : Run rt host past d) :
    ∀ m ∈ past, m.before.host.Knows first second → d.host.Knows first second := by
  induction hrun with
  | start =>
      intro m hm
      cases hm
  | @act past d now action d' hrun _ hstep ih =>
      intro m hm hknows
      have hbefore : d.host.Knows first second := by
        rcases List.mem_append.mp hm with hearlier | hlast
        · exact ih m hearlier hknows
        · rw [List.mem_singleton.mp hlast] at hknows
          exact hknows
      exact hstep.effect.knows hrun.serial hbefore

/-- Once the store knows a peer, every later answer to it goes as it would with any other
broker. -/
def Unprompted (rt : Runtime) (before : List Moment) (m : Moment) : Prop :=
  ∀ peer start broker around, m.action = .begin 0 →
    m.before.tasks 0 = some (.entered peer (rt.responds peer start broker around)) →
    (∃ m' ∈ before, m'.before.host.Knows rt.identity.deviceId peer.discovery.deviceId) →
    ∀ broker', rt.responds peer start broker around m.before.host =
      rt.responds peer start broker' around m.before.host

theorem answers_unprompted (hrun : Run rt host past d) : Throughout (Unprompted rt) past := by
  induction hrun with
  | start => exact throughout_nil
  | @act past d now action d' hrun _ _ ih =>
      rw [throughout_append]
      refine ⟨ih, ?_, trivial⟩
      intro peer start broker around _ _ hearlier broker'
      obtain ⟨m', hm', hknows⟩ := hearlier
      have hknown : d.host.Knows (rt.toward peer).identity.deviceId (rt.toward peer).peerDeviceId :=
        hrun.knows m' hm' hknows
      unfold Runtime.responds
      cases around.refused with
      | some e => rfl
      | none => exact (unasked_of_knows hknown).run _ _ _ _ _ broker broker'

end Daemon

end Known

end Spacing

namespace Loopback

attribute [local instance] crypto noise PairingRecord.canonicalSerde
  PairingRecord.canonicalSerde_lawful PairMessage.canonicalSerde

open Daemon

/-- The listener gives up, cools its neighbour down and is called once more after 40 seconds. -/
def dismissed : Daemon :=
  ((running Host.empty).release responderRuntime 0 neighbour (answer Host.empty).result none
    3).tick 3

def rested : Daemon := (dismissed.coolDown 0 neighbour.discovery.deviceId 4).tick 4

def recalled : Daemon :=
  (rested.route responderRuntime lan (routePreface (identity 1)) (40 * 10 ^ 9)).tick (40 * 10 ^ 9)

/-- The moments from the end of the first attempt to the second call. -/
def callsAgain : List Moment :=
  [⟨running Host.empty, .release 0 none, 3⟩, ⟨dismissed, .coolDown 0, 4⟩,
    ⟨rested, .route lan (routePreface (identity 1)), 40 * 10 ^ 9⟩]

private theorem answer_fails : (answer Host.empty).visited = [] ∧
    responderRuntime.guardRetries none Host.empty neighbour (answer Host.empty).result = true := by
  have hvisited : (answer Host.empty).visited.isEmpty = true := by decide +kernel
  have hresult : (answer Host.empty).result.isOk = false := by decide +kernel
  refine ⟨List.isEmpty_iff.mp hvisited, ?_⟩
  cases heq : (answer Host.empty).result with
  | ok session =>
      rw [heq] at hresult
      cases hresult
  | error e => rfl

private theorem running_eq : ∃ peers : PeerCache, ∃ tasks : ℕ → Option Task,
    peers.entries.lookup neighbour.discovery.deviceId = some neighbour ∧
      tasks 0 = some (.running neighbour [] (answer Host.empty).result) ∧
      running Host.empty =
        ⟨heardVerifier, peers, ⟨true, ∅⟩, Host.empty, .heard neighbour, none, tasks, 3⟩ := by
  obtain ⟨peers, hkept, heq⟩ := answered_eq Host.empty
  refine ⟨peers, Function.update (answered Host.empty).tasks 0 _, hkept,
    Function.update_self .., ?_⟩
  simp only [running, answer_fails.1, heq, Daemon.setTask, Daemon.tick]

private theorem recalled_eq : rested.tasks 0 = none ∧ rested.called = none ∧
    recalled.called = some neighbour ∧ recalled.tasks 0 = none ∧
    recalled.coordinator = (PairCoordinator.mk false ∅).coolDown 4 neighbour.discovery.deviceId := by
  obtain ⟨peers, tasks, hkept, -, heq⟩ := running_eq
  have hidle : rested.tasks 0 = none := by
    simp only [rested, Daemon.coolDown, Daemon.setTask, Daemon.tick, Function.update_self]
  have hlistening : rested.called = none := by
    simp only [rested, dismissed, heq, Daemon.coolDown, Daemon.release, Daemon.setTask, Daemon.tick]
  have hcoordinator : rested.coordinator =
      (PairCoordinator.mk false ∅).coolDown 4 neighbour.discovery.deviceId := by
    simp only [rested, dismissed, heq, Daemon.coolDown, Daemon.release, Daemon.setTask, Daemon.tick,
      PairCoordinator.release]
  have hcached : rested.peers.entries.lookup neighbour.discovery.deviceId = some neighbour := by
    simp only [rested, dismissed, heq, Daemon.coolDown, Daemon.release, Daemon.setTask, Daemon.tick,
      hkept]
  have hfresh : PeerCache.fresh (40 * 10 ^ 9) neighbour = true := by decide +kernel
  obtain ⟨peers', -, hroute⟩ := route_neighbour hcached hfresh
  refine ⟨hidle, hlistening, ?_⟩
  simp only [recalled, hroute, Daemon.tick, hidle, hcoordinator, and_self]

private theorem callsAgain_run :
    Daemon.Run responderRuntime Host.empty (calls Host.empty ++ callsAgain) recalled := by
  obtain ⟨_, _, -, htask, hrunning⟩ := running_eq
  obtain ⟨hidle, hlistening, -⟩ := recalled_eq
  have hrelease : Step responderRuntime (running Host.empty) 3 (.release 0 none)
      ((running Host.empty).release responderRuntime 0 neighbour (answer Host.empty).result none
        3) := by
    refine .release ?_
    rw [hrunning]
    exact htask
  have hcoolDown : Step responderRuntime dismissed 4 (.coolDown 0)
      (dismissed.coolDown 0 neighbour.discovery.deviceId 4) := by
    have hleaving : dismissed.tasks 0 = some (.leaving neighbour.discovery.deviceId 3) := by
      simp only [dismissed, hrunning, Daemon.release, Daemon.setTask, Daemon.tick,
        Function.update_self, Runtime.retries, answer_fails.2, if_true]
    exact .coolDown hleaving
  have hroute : Step responderRuntime rested (40 * 10 ^ 9) (.route lan (routePreface (identity 1)))
      (rested.route responderRuntime lan (routePreface (identity 1)) (40 * 10 ^ 9)) :=
    .route hidle hlistening
  have hrun₁ := Daemon.Run.act (calls_run Host.empty) (le_refl 3) hrelease
  have hrun₂ := Daemon.Run.act hrun₁ (Nat.le_succ 3) hcoolDown
  exact Daemon.Run.act hrun₂ (by decide : (4 : ℕ) ≤ 40 * 10 ^ 9) hroute

/-- The second answer. -/
def secondAnswer : Moment :=
  ⟨recalled, .call [] (fun _ => .error "") broken, 40 * 10 ^ 9⟩

private theorem secondAnswer_run : ∃ d, Daemon.Run responderRuntime Host.empty
    (calls Host.empty ++ callsAgain ++ [secondAnswer]) d := by
  obtain ⟨-, -, hcalled, hidle, -⟩ := recalled_eq
  exact ⟨_, Daemon.Run.act callsAgain_run (le_refl _) (.call hidle hcalled)⟩

theorem answers_spaced_calls :
    Answers secondAnswer neighbour.discovery.deviceId ∧ 3 + pairCooldown ≤ 40 * 10 ^ 9 := by
  obtain ⟨-, -, hcalled, -, hcoordinator⟩ := recalled_eq
  obtain ⟨_, _, -, htask, hrunning⟩ := running_eq
  obtain ⟨d, hrun⟩ := secondAnswer_run
  have hanswers : Answers secondAnswer neighbour.discovery.deviceId := by
    refine ⟨[], _, broken, neighbour, rfl, hcalled, rfl, ?_⟩
    rw [PairCoordinator.enter_eq_true]
    show PairCoordinator.Free recalled.coordinator _ _
    rw [hcoordinator]
    refine ⟨rfl, ?_⟩
    intro deadline hdeadline
    rw [PairCoordinator.coolDown, AList.lookup_insert] at hdeadline
    rw [← Option.some.inj hdeadline]
    exact (by decide : 4 + pairCooldown ≤ 40 * 10 ^ 9)
  have hdismisses : Dismisses responderRuntime ⟨running Host.empty, .release 0 none, 3⟩
      neighbour.discovery.deviceId := by
    refine ⟨none, neighbour, (answer Host.empty).result, rfl, ?_, rfl, ?_⟩
    · show (running Host.empty).tasks 0 = _
      rw [hrunning]
      exact htask
    · show responderRuntime.guardRetries none (running Host.empty).host neighbour _ = true
      rw [hrunning]
      exact answer_fails.2
  refine ⟨hanswers, ?_⟩
  apply answers_spaced hrun _ secondAnswer [] rfl _ hanswers _ ?_ hdismisses
  simp [callsAgain]

/-- The store knows the neighbour once it has been prompted for. -/
theorem answers_unprompted_calls :
    answer (endState Host.empty prompt.visited) =
      responderRuntime.responds neighbour [] (fun _ => .ok ⟨marker⟩) broken
        (endState Host.empty prompt.visited) := by
  have hprompt : prompt.result.isOk = true := by decide +kernel
  obtain ⟨record, hprepared⟩ := (isOk_iff _).mp hprompt
  have hknown : (endState Host.empty prompt.visited).Knows (identity 2).deviceId
      (sessionOf 8 2 1 roleResponder).peerCertificate.deviceId := prepare_knows.2 record hprepared
  have hpeer : (sessionOf 8 2 1 roleResponder).peerCertificate.deviceId = deviceIdOf 1 := rfl
  have hneighbour : neighbour.discovery.deviceId = deviceIdOf 1 := rfl
  rw [hpeer, ← hneighbour] at hknown
  generalize endState Host.empty prompt.visited = h at hknown ⊢
  obtain ⟨_, -, hanswered⟩ := answered_eq h
  have htask : (answered h).tasks 0 = some (.entered neighbour answer) := by
    rw [hanswered]
    rfl
  have hearlier : (⟨start responderRuntime h, .hear announcementBytes lan 100, 1⟩ : Moment) ∈
      (calls h).take 3 := List.mem_cons_self
  have hunprompted := answers_unprompted (calls_run h) ((calls h).take 3)
    ⟨answered h, .begin 0, 3⟩ [] rfl neighbour [] _ broken rfl htask ⟨_, hearlier, hknown⟩
    fun _ => .ok ⟨marker⟩
  dsimp only at hunprompted
  rw [hanswered] at hunprompted
  exact hunprompted

end Loopback

end OmarchySync
