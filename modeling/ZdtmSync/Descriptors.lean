import ZdtmSync.Stages

/-!
# Opening and closing descriptors

What the functions that connect and disconnect do to the set of open descriptors
of the host. An opened descriptor is a new one, a closed one was open.
-/

namespace ZdtmDescriptors

open CMemory Programs ZdtmTypes ZdtmMsgs ZdtmNet ZdtmSession ZdtmProto ZdtmConnections ZdtmSync
  ZdtmOperations

/-- The events lead from one set of open descriptors to the other. -/
inductive Happens : List Nat → List DescriptorEvent → List Nat → Prop
  | nil (d : List Nat) : Happens d [] d
  | opened {d d' : List Nat} {fd : Nat} {evs : List DescriptorEvent} (hnew : fd ∉ d)
      (hrest : Happens (fd :: d) evs d') : Happens d (.opened fd :: evs) d'
  | closed {d d' : List Nat} {fd : Nat} {evs : List DescriptorEvent} (hopen : fd ∈ d)
      (hrest : Happens (d.erase fd) evs d') : Happens d (.closed fd :: evs) d'

theorem Happens.append {d d' d'' : List Nat} {evs evs' : List DescriptorEvent}
    (h : Happens d evs d') (h' : Happens d' evs' d'') : Happens d (evs ++ evs') d'' := by
  induction h with
  | nil d => exact h'
  | opened hnew hrest ih => exact .opened hnew (ih h')
  | closed hopen hrest ih => exact .closed hopen (ih h')

/-- What a program does to the descriptors that makes no calls on `connfd`. -/
structure Handles (s : State) (evs : List DescriptorEvent) (s' : State) : Prop where
  history : s'.host.history = s.host.history ++ evs
  happens : Happens s.host.descriptors evs s'.host.descriptors
  events : s'.events = s.events

def handles : Recorder State DescriptorEvent where
  Extends := Handles
  refl s := ⟨(List.append_nil _).symm, .nil _, rfl⟩
  trans h h' := ⟨by rw [h'.history, h.history, List.append_assoc], h.happens.append h'.happens,
    h'.events.trans h.events⟩

section Descriptors

variable {α : Type}

/-- The program returns, and touches neither the environment nor a descriptor. -/
def Idle (P : α → Prop) (env : Env) (r : Except Fault α) (env' : Env)
    (evs : List DescriptorEvent) : Prop :=
  env' = env ∧ evs = [] ∧ ∃ a, r = .ok a ∧ P a

theorem idle_pure {P : α → Prop} {a : α} (h : P a) :
    Runs handles State.env (pure a : Session α) (Idle P) :=
  runs_pure fun _ => ⟨rfl, rfl, a, rfl, h⟩

theorem idle_bind {β : Type} {P : α → Prop} {Q : β → Prop} {x : Session α} {f : α → Session β}
    (hx : Runs handles State.env x (Idle P))
    (hf : ∀ a, P a → Runs handles State.env (f a) (Idle Q)) :
    Runs handles State.env (x >>= f) (Idle Q) := by
  apply runs_bind hx
  · rintro env a env' evs ⟨rfl, rfl, a', heq, ha⟩
    cases heq
    apply (hf a ha).mono
    rintro env r env' evs ⟨rfl, rfl, hr⟩ rfl
    exact ⟨rfl, rfl, hr⟩
  · rintro env f env' evs ⟨-, -, a, heq, -⟩
    cases heq

/-- An answer is used up, and nothing else. -/
theorem answer_leads (s : State) : Leads answer s fun r s' =>
    (∃ success, r = .ok success) ∧ ∃ answers, s' = { s with host := { s.host with answers } } := by
  cases hanswers : s.host.answers with
  | nil =>
    have hrun : answer s = (.ok true, s) := by simp only [answer, hanswers]
    exact leads_of_eq hrun ⟨⟨true, rfl⟩, [], by rw [← hanswers]⟩
  | cons success answers =>
    have hrun : answer s = (.ok success, { s with host := { s.host with answers } }) := by
      simp only [answer, hanswers]
    exact leads_of_eq hrun ⟨⟨success, rfl⟩, answers, rfl⟩

theorem answer_idle : Runs handles State.env answer (Idle fun _ => True) := by
  intro s
  apply (answer_leads s).mono
  rintro r s' ⟨⟨success, hr⟩, answers, rfl⟩
  exact ⟨[], ⟨(List.append_nil _).symm, .nil _, rfl⟩, rfl, rfl, success, hr, trivial⟩

theorem openDescriptor_runs : Runs handles State.env openDescriptor fun env r env' evs =>
    env' = env ∧ ∃ socket, r = .ok socket ∧ evs = socket.toList.map .opened := by
  apply runs_bind answer_idle
  · rintro env success env' evs ⟨rfl, rfl, -⟩
    cases success with
    | false =>
      apply runs_pure
      rintro env rfl
      exact ⟨rfl, none, rfl, rfl⟩
    | true =>
      intro s
      refine ⟨[.opened (s.host.pick s.host.descriptors).1], ⟨rfl, ?_, rfl⟩, ?_⟩
      · exact .opened (s.host.pick s.host.descriptors).2 (.nil _)
      · intro henv
        exact ⟨henv, _, rfl, rfl⟩
  · rintro env f env' evs ⟨-, -, success, heq, -⟩
    cases heq

theorem closeDescriptor_runs (socket : Socket) :
    Runs handles State.env (closeDescriptor socket) fun env r env' evs =>
      env' = env ∧ (r = .ok true → ∃ fd, socket = some fd ∧ evs = [.closed fd]) := by
  intro s
  have hnothing : ∀ answers, Handles s [] { s with host := { s.host with answers } } :=
    fun answers => ⟨(List.append_nil _).symm, .nil _, rfl⟩
  cases socket with
  | none => exact ⟨[], handles.refl s, rfl, nofun⟩
  | some fd =>
    by_cases hopen : fd ∈ s.host.descriptors
    · have hclose : closeDescriptor (some fd) s = (answer >>= fun success =>
          if success then modifyHost (closed fd) >>= fun _ => pure true else pure false) s := by
        change (if fd ∉ s.host.descriptors then _ else _ : Session Bool) s = _
        simp only [hopen, not_true_eq_false, if_false]
      apply Leads.congr _ hclose
      apply leads_bind (answer_leads s)
      · rintro success s' ⟨-, answers, rfl⟩
        cases success with
        | false => exact ⟨[], hnothing answers, rfl, nofun⟩
        | true => exact ⟨[.closed fd], ⟨rfl, .closed hopen (.nil _), rfl⟩, rfl, fun _ => ⟨fd, rfl, rfl⟩⟩
      · rintro f s' ⟨⟨success, hsuccess⟩, -⟩
        cases hsuccess
    · have hrun : closeDescriptor (some fd) s = (.ok false, s) := by
        change (if fd ∉ s.host.descriptors then _ else _ : Session Bool) s = _
        simp only [hopen, not_false_eq_true, if_true]
        rfl
      exact leads_of_eq hrun ⟨[], handles.refl s, rfl, nofun⟩

/-- A descriptor goes into a field of the environment; behind a success it is open. -/
def Opens (set : Env → Socket → Env) (env : Env) (r : Except Fault Int) (env' : Env)
    (evs : List DescriptorEvent) : Prop :=
  ∃ socket, env' = set env socket ∧ (r = .ok 0 → ∃ fd, socket = some fd ∧ evs = [.opened fd])

theorem opens_runs {set : Env → Socket → Env} {f : Socket → Session Int}
    (hf : ∀ socket, Runs handles State.env (f socket) (Idle fun r => r = 0 → socket ≠ none)) :
    Runs handles State.env
      (openDescriptor >>= fun socket => modifyEnv (fun env => set env socket) >>= fun _ => f socket)
      (Opens set) := by
  apply runs_bind openDescriptor_runs
  · rintro env socket env' evs ⟨rfl, socket', heq, rfl⟩
    cases heq
    intro s
    obtain ⟨evs, hhandles, henv, rfl, r, hr, hsome⟩ :=
      hf socket { s with env := set s.env socket }
    refine ⟨[], ⟨hhandles.history, hhandles.happens, hhandles.events⟩, ?_⟩
    rintro rfl
    refine ⟨socket, henv, ?_⟩
    intro hzero
    have hrun : r = 0 := Except.ok.inj (hr.symm.trans hzero)
    obtain ⟨fd, rfl⟩ := Option.ne_none_iff_exists'.mp (hsome hrun)
    exact ⟨fd, rfl, rfl⟩
  · rintro env f env' evs ⟨-, socket, heq, -⟩
    cases heq

/-- The descriptor of the environment is closed. -/
def Closes (socket : Env → Socket) (env : Env) (r : Except Fault Int) (env' : Env)
    (evs : List DescriptorEvent) : Prop :=
  env' = env ∧ (r = .ok 0 → ∃ fd, socket env = some fd ∧ evs = [.closed fd])

theorem closes_runs (socket : Env → Socket) :
    Runs handles State.env (getEnv >>= fun env => closeDescriptor (socket env) >>= fun success =>
      if success then pure 0 else pure (-1)) (Closes socket) := by
  apply runs_getEnv_eq
  intro env
  apply runs_bind (closeDescriptor_runs (socket env))
  · rintro v success v' evs ⟨rfl, hclosed⟩
    cases success with
    | false =>
      apply runs_pure
      rintro v rfl rfl
      exact ⟨rfl, nofun⟩
    | true =>
      obtain ⟨fd, hfd, rfl⟩ := hclosed rfl
      apply runs_pure
      rintro v rfl rfl
      exact ⟨rfl, fun _ => ⟨fd, hfd, rfl⟩⟩
  · rintro v f v' evs ⟨rfl, -⟩ rfl
    exact ⟨rfl, nofun⟩

theorem stopListening_runs : Runs handles State.env zdtmStopListening (Closes Env.listenfd) :=
  closes_runs Env.listenfd

theorem closeConnToZaurus_runs :
    Runs handles State.env zdtmCloseConnToZaurus (Closes Env.reqfd) := closes_runs Env.reqfd

theorem closeLog_runs : Runs handles State.env zdtmCloseLog (Closes Env.logfp) := by
  intro s
  by_cases hlog : s.env.logfp = none
  · have hrun : zdtmCloseLog s = (.ok (-2), s) := by
      change (if s.env.logfp = none then _ else _ : Session Int) s = _
      simp only [hlog, if_true]
      rfl
    exact leads_of_eq hrun ⟨[], handles.refl s, rfl, nofun⟩
  · apply (closes_runs Env.logfp s).congr
    change (if s.env.logfp = none then _ else _ : Session Int) s = _
    simp only [hlog, if_false]
    rfl

theorem openLog_runs :
    Runs handles State.env zdtmOpenLog (Opens fun env logfp => { env with logfp }) := by
  have hkeep : ∀ {env : Env} {r : Except Fault Int}, r ≠ .ok 0 →
      Opens (fun env logfp => { env with logfp }) env r env [] :=
    fun hr => ⟨_, rfl, fun hzero => absurd hzero hr⟩
  apply runs_getHost
  intro host
  cases host.home with
  | none => exact runs_pure fun env => hkeep (by decide)
  | some home =>
    simp only
    split
    · exact fun s => ⟨[], handles.refl s, hkeep nofun⟩
    · split
      · exact runs_pure fun env => hkeep (by decide)
      · apply opens_runs
        intro logfp
        split
        · exact idle_pure nofun
        · next hne => exact idle_pure fun _ => hne

theorem listenForZaurus_runs :
    Runs handles State.env zdtmListenForZaurus (Opens fun env listenfd => { env with listenfd }) := by
  apply opens_runs
  intro listenfd
  split
  · exact idle_pure nofun
  · next hne =>
    apply idle_bind answer_idle
    rintro (_ | _) -
    · exact idle_pure nofun
    · apply idle_bind answer_idle
      rintro (_ | _) -
      · exact idle_pure nofun
      · apply idle_bind answer_idle
        rintro (_ | _) -
        · exact idle_pure nofun
        · exact idle_pure fun _ => hne

theorem handleZaurusConn_runs :
    Runs handles State.env zdtmHandleZaurusConn (Opens fun env connfd => { env with connfd }) := by
  apply opens_runs
  intro connfd
  split
  · exact idle_pure nofun
  · next hne => exact idle_pure fun _ => hne

theorem connToZaurus_runs (zaurusIp : Bytes ipStrSize) :
    Runs handles State.env (zdtmConnToZaurus zaurusIp)
      (Opens fun env reqfd => { env with reqfd }) := by
  apply opens_runs
  intro reqfd
  split
  · exact idle_pure nofun
  · next hne =>
    apply runs_getHost
    intro host
    split
    · exact idle_pure nofun
    · apply idle_bind answer_idle
      rintro (_ | _) -
      · exact idle_pure nofun
      · exact idle_pure fun _ => hne

end Descriptors

/-- A function that takes what it does from the network part only. -/
theorem sys_runs {α : Type} (x : Sys α) :
    Runs handles State.env (sys x) fun env _ env' evs => env' = env ∧ evs = [] := by
  intro s
  cases hx : x s.world with
  | error f =>
    have hrun : sys x s = (.error f, s) := by simp only [sys, hx]
    exact leads_of_eq hrun ⟨[], handles.refl s, rfl, rfl⟩
  | ok a =>
    have hrun : sys x s = (.ok a.1, { s with world := a.2 }) := by simp only [sys, hx]
    exact leads_of_eq hrun ⟨[], ⟨(List.append_nil _).symm, .nil _, rfl⟩, rfl, rfl⟩

theorem modifyEnv_runs (g : Env → Env) :
    Runs handles State.env (modifyEnv g) fun env _ env' evs => env' = g env ∧ evs = [] :=
  fun _ => ⟨[], ⟨(List.append_nil _).symm, .nil _, rfl⟩, rfl, rfl⟩

/-- Both connections with the Zaurus are opened, first the one to it. -/
theorem connect_runs (b : Build) (ipAddr : Bytes ipStrSize) :
    Runs handles State.env (zdtmConnect b ipAddr) fun env r env' evs =>
      ∃ reqfd connfd, env' = { env with reqfd, connfd } ∧ (r = .ok 0 →
        ∃ req conn, reqfd = some req ∧ connfd = some conn ∧ evs = [.opened req, .opened conn]) := by
  apply runs_guard (connToZaurus_runs ipAddr)
  · rintro env r env' evs hr ⟨reqfd, rfl, -⟩
    exact ⟨reqfd, env.connfd, rfl, nofun⟩
  · rintro env f env' evs ⟨reqfd, rfl, -⟩
    exact ⟨reqfd, env.connfd, rfl, nofun⟩
  · rintro env env' evs ⟨reqfd, rfl, hreq⟩
    obtain ⟨req, rfl, rfl⟩ := hreq rfl
    apply runs_bind (sys_runs _)
    · rintro env₁ ⟨r, sent⟩ env₁' evs' ⟨rfl, rfl⟩
      by_cases hr : r = 0
      · subst hr
        apply runs_guard handleZaurusConn_runs
        · rintro env₂ r env₂' evs₂ hr ⟨connfd, rfl, -⟩ rfl rfl
          exact ⟨some req, connfd, rfl, nofun⟩
        · rintro env₂ f env₂' evs₂ ⟨connfd, rfl, -⟩ rfl rfl
          exact ⟨some req, connfd, rfl, nofun⟩
        · rintro env₂ env₂' evs₂ ⟨connfd, rfl, hconn⟩
          obtain ⟨conn, rfl, rfl⟩ := hconn rfl
          apply runs_pure
          rintro env₃ rfl rfl rfl
          exact ⟨some req, some conn, rfl, fun _ => ⟨req, conn, rfl, rfl, rfl⟩⟩
      · simp only [ne_eq, hr, not_false_eq_true, if_true]
        apply runs_pure
        rintro env₂ rfl rfl
        exact ⟨some req, env.connfd, rfl, nofun⟩
    · rintro env₁ f env₁' evs' ⟨rfl, rfl⟩ rfl
      exact ⟨some req, env.connfd, rfl, nofun⟩

/-- The log file and the listening socket are opened. -/
theorem initialize_runs : Runs handles State.env zdtmInitialize fun env r env' evs =>
    r = .ok 0 → ∃ log listen, env' = { initialEnv { env with logfp := some log } with
      listenfd := some listen } ∧ evs = [.opened log, .opened listen] := by
  apply runs_guard openLog_runs
  · exact fun _ _ _ _ _ _ => nofun
  · exact fun _ _ _ _ _ => nofun
  · rintro env env' evs ⟨logfp, rfl, hlog⟩
    obtain ⟨log, rfl, rfl⟩ := hlog rfl
    apply runs_bind (modifyEnv_runs initialEnv)
    · rintro env₁ a env₁' evs' ⟨rfl, rfl⟩
      apply runs_guard listenForZaurus_runs
      · exact fun _ _ _ _ _ _ _ _ => nofun
      · exact fun _ _ _ _ _ _ _ => nofun
      · rintro env₂ env₂' evs₂ ⟨listenfd, rfl, hlisten⟩
        obtain ⟨listen, rfl, rfl⟩ := hlisten rfl
        apply runs_pure
        rintro env₃ rfl rfl rfl -
        exact ⟨log, listen, rfl, rfl⟩
    · exact fun _ _ _ _ _ _ => nofun

/-- The listening socket and the log file are closed. -/
theorem finalize_runs : Runs handles State.env zdtmFinalize fun env r env' evs =>
    env' = env ∧ (r = .ok 0 → ∃ listen log, env.listenfd = some listen ∧ env.logfp = some log ∧
      evs = [.closed listen, .closed log]) := by
  apply runs_guard stopListening_runs
  · rintro env r env' evs hr ⟨rfl, -⟩
    exact ⟨rfl, nofun⟩
  · rintro env f env' evs ⟨rfl, -⟩
    exact ⟨rfl, nofun⟩
  · rintro env env' evs ⟨rfl, hlisten⟩
    obtain ⟨listen, hfd, rfl⟩ := hlisten rfl
    apply runs_guard closeLog_runs
    · rintro env₁ r env₁' evs' hr ⟨rfl, -⟩ rfl
      exact ⟨rfl, nofun⟩
    · rintro env₁ f env₁' evs' ⟨rfl, -⟩ rfl
      exact ⟨rfl, nofun⟩
    · rintro env₁ env₁' evs' ⟨rfl, hlog⟩
      obtain ⟨log, hfp, rfl⟩ := hlog rfl
      apply runs_pure
      rintro env₂ rfl rfl
      exact ⟨rfl, fun _ => ⟨listen, log, hfd, hfp, rfl⟩⟩

end ZdtmDescriptors
