import Mathlib.Data.Set.Card
import MemoryReclaim.Subscriber

/-!
# Stays in the registry

A subscriber stays in the registry from the request that lets it in to the one that lets it
out.  It is told of both, and in between of all news in their order; at other times it hears
nothing.  What was asked so far tells who is in, so the registry and the deliveries are
compared with the requests alone.
-/

namespace MemoryReclaim.Registry

/-- What every registered subscriber is told of. -/
inductive News
  | appState (pid : Pid) (uid : Uid) (state : AppState)
  | forceReclaim (pid : Pid) (uid : Uid)
  | trim (level : MemoryLevel)
  deriving DecidableEq

def News.notice : News → Notice
  | .appState pid uid state => .appState pid uid state
  | .forceReclaim pid uid => .forceReclaim pid uid
  | .trim level => .trim level

inductive Request
  | subscribe (name : SubscriberName)
  | unsubscribe (name : SubscriberName)
  | announce (news : News)
  deriving DecidableEq

def Request.notice? : Request → Option Notice
  | .announce news => some news.notice
  | _ => none

/-- News is not answered; the other requests are answered whether they changed anything. -/
structure Reply where
  accepted : Option Bool
  deliveries : List Delivery
  deriving DecidableEq

def serve (registry : Registry) : Request → Reply × Registry
  | .subscribe name =>
      let (accepted, deliveries, registry) := registry.subscribe name
      (⟨some accepted, deliveries⟩, registry)
  | .unsubscribe name =>
      let (accepted, deliveries, registry) := registry.unsubscribe name
      (⟨some accepted, deliveries⟩, registry)
  | .announce news => (⟨none, registry.deliveries news.notice⟩, registry)

def after (requests : List Request) : Registry :=
  requests.foldl (fun registry request => (registry.serve request).2) empty

/-- The requests, each with its reply. -/
def served (registry : Registry) : List Request → List (Request × Reply)
  | [] => []
  | request :: later =>
      (request, (registry.serve request).1) :: (registry.serve request).2.served later

def noticesTo (name : SubscriberName) (deliveries : List Delivery) : List Notice :=
  (deliveries.filter fun delivery => delivery.subscriber = name).map Delivery.notice

/-- Everything that a subscriber was told, in order. -/
def received (name : SubscriberName) (requests : List Request) : List Notice :=
  noticesTo name ((empty.served requests).flatMap fun exchange => exchange.2.deliveries)

/-- How often a subscriber was let in. -/
def registrations (name : SubscriberName) (requests : List Request) : Nat :=
  (empty.served requests).countP fun (request, reply) =>
    request = .subscribe name && reply.accepted = some true

/-- The subscriber asked to be let in, and not to be let out since. -/
def IsIn (name : SubscriberName) (requests : List Request) : Prop :=
  ∃ before during,
    requests = before ++ .subscribe name :: during ∧ .unsubscribe name ∉ during

def isConnection (notice : Notice) : Bool := notice = .connected || notice = .disconnected

/-- The notices of coming and going. -/
def connections (name : SubscriberName) (requests : List Request) : List Notice :=
  (received name requests).filter isConnection

/-- The notices of coming and going that belong to stays which have ended. -/
def visits (count : Nat) : List Notice :=
  (List.replicate count [Notice.connected, Notice.disconnected]).flatten

variable {registry : Registry} {name : SubscriberName} {requests : List Request}

/-! ## One request -/

theorem noticesTo_append (earlier later : List Delivery) :
    noticesTo name (earlier ++ later) = noticesTo name earlier ++ noticesTo name later := by
  rw [noticesTo, List.filter_append, List.map_append]
  rfl

theorem noticesTo_of_ne {other : SubscriberName} (hother : other ≠ name) (notice : Notice) :
    noticesTo name [⟨other, notice⟩] = [] := by
  rw [noticesTo, List.filter_cons_of_neg (by simpa using hother)]
  rfl

theorem noticesTo_self (notice : Notice) : noticesTo name [⟨name, notice⟩] = [notice] := by
  rw [noticesTo, List.filter_cons_of_pos (by simp)]
  rfl

/-- A subscriber stands in the registry at most once. -/
theorem count_keys (registry : Registry) (name : SubscriberName) :
    registry.keys.count name = if registry.contains name then 1 else 0 := by
  split
  · next hin =>
      exact List.count_eq_one_of_mem registry.keys_nodup (OrdMap.mem_keys.2 hin)
  · next hout =>
      exact List.count_eq_zero_of_not_mem fun hmem => hout (OrdMap.mem_keys.1 hmem)

/-- Each registered subscriber is called once, with the notice itself, and nobody else is. -/
theorem count_deliveries (registry : Registry) (notice : Notice) (delivery : Delivery) :
    (registry.deliveries notice).count delivery =
      if delivery.notice = notice ∧ registry.contains delivery.subscriber then 1 else 0 := by
  obtain ⟨name, told⟩ := delivery
  by_cases htold : told = notice
  · subst htold
    have hinjective : Function.Injective fun other => Delivery.mk other told :=
      fun _ _ hsame => (Delivery.mk.inj hsame).1
    rw [deliveries, List.count_map_of_injective _ _ hinjective, count_keys]
    simp
  · rw [if_neg fun hboth => htold hboth.1, List.count_eq_zero]
    intro hmem
    obtain ⟨other, -, hsame⟩ := List.mem_map.1 hmem
    exact htold (Delivery.mk.inj hsame).2.symm

theorem noticesTo_deliveries (registry : Registry) (name : SubscriberName) (notice : Notice) :
    noticesTo name (registry.deliveries notice) =
      if registry.contains name then [notice] else [] := by
  have hkeys : registry.keys.filter (fun other => other = name) =
      List.replicate (registry.keys.count name) name := List.filter_eq name
  rw [noticesTo, deliveries, List.filter_map, List.map_map]
  simp only [Function.comp_def, hkeys, count_keys]
  split <;> rfl

theorem serve_subscribe_of_contains (hin : registry.contains name) :
    registry.serve (.subscribe name) = (⟨some false, []⟩, registry) := by
  rw [serve, subscribe, if_pos hin]

theorem serve_subscribe_of_not_contains (hout : ¬ registry.contains name) :
    registry.serve (.subscribe name) =
      (⟨some true, [⟨name, .connected⟩]⟩, registry.insert name ()) := by
  rw [serve, subscribe, if_neg hout]

theorem serve_unsubscribe_of_contains (hin : registry.contains name) :
    registry.serve (.unsubscribe name) =
      (⟨some true, [⟨name, .disconnected⟩]⟩, registry.erase name) := by
  rw [serve, unsubscribe, if_pos hin]

theorem serve_unsubscribe_of_not_contains (hout : ¬ registry.contains name) :
    registry.serve (.unsubscribe name) = (⟨some false, []⟩, registry) := by
  rw [serve, unsubscribe, if_neg hout]

/-- While it stays in, a subscriber is told the news and nothing else. -/
theorem noticesTo_serve_of_contains (hin : registry.contains name) {request : Request}
    (hrequest : request ≠ .unsubscribe name) :
    noticesTo name (registry.serve request).1.deliveries = request.notice?.toList := by
  cases request with
  | announce news =>
      rw [serve, noticesTo_deliveries, if_pos hin]
      rfl
  | subscribe other =>
      by_cases hother : registry.contains other
      · rw [serve_subscribe_of_contains hother]
        rfl
      · rw [serve_subscribe_of_not_contains hother]
        refine noticesTo_of_ne ?_ _
        rintro rfl
        exact hother hin
  | unsubscribe other =>
      have hne : other ≠ name := fun hsame => hrequest (hsame ▸ rfl)
      by_cases hother : registry.contains other
      · rw [serve_unsubscribe_of_contains hother]
        exact noticesTo_of_ne hne _
      · rw [serve_unsubscribe_of_not_contains hother]
        rfl

/-- While it stays out, a subscriber is told nothing. -/
theorem noticesTo_serve_of_not_contains (hout : ¬ registry.contains name) {request : Request}
    (hrequest : request ≠ .subscribe name) :
    noticesTo name (registry.serve request).1.deliveries = [] := by
  cases request with
  | announce news => rw [serve, noticesTo_deliveries, if_neg hout]
  | subscribe other =>
      have hne : other ≠ name := fun hsame => hrequest (hsame ▸ rfl)
      by_cases hother : registry.contains other
      · rw [serve_subscribe_of_contains hother]
        rfl
      · rw [serve_subscribe_of_not_contains hother]
        exact noticesTo_of_ne hne _
  | unsubscribe other =>
      by_cases hother : registry.contains other
      · rw [serve_unsubscribe_of_contains hother]
        refine noticesTo_of_ne ?_ _
        rintro rfl
        exact hout hother
      · rw [serve_unsubscribe_of_not_contains hother]
        rfl

theorem contains_serve (registry : Registry) (request : Request) (name : SubscriberName) :
    (registry.serve request).2.contains name ↔
      request = .subscribe name ∨ registry.contains name ∧ request ≠ .unsubscribe name := by
  cases request with
  | announce news => simp [serve]
  | subscribe other =>
      by_cases hother : registry.contains other
      · rw [serve_subscribe_of_contains hother]
        simp only [Request.subscribe.injEq, ne_eq, reduceCtorEq, not_false_eq_true, and_true]
        exact ⟨.inr, fun hor => hor.elim (fun hsame => hsame ▸ hother) id⟩
      · rw [serve_subscribe_of_not_contains hother]
        simp only [OrdMap.contains, OrdMap.get?_insert, Request.subscribe.injEq, ne_eq,
          reduceCtorEq, not_false_eq_true, and_true]
        split <;> simp_all
  | unsubscribe other =>
      by_cases hother : registry.contains other
      · rw [serve_unsubscribe_of_contains hother]
        simp only [OrdMap.contains, OrdMap.get?_erase, reduceCtorEq, false_or, ne_eq,
          Request.unsubscribe.injEq]
        split <;> simp_all
      · rw [serve_unsubscribe_of_not_contains hother]
        simp only [reduceCtorEq, false_or, ne_eq, Request.unsubscribe.injEq]
        exact ⟨fun hin => ⟨hin, fun hsame => hother (hsame ▸ hin)⟩, And.left⟩

/-! ## One request after the other -/

theorem after_concat (requests : List Request) (request : Request) :
    after (requests ++ [request]) = ((after requests).serve request).2 := by
  rw [after, List.foldl_append]
  rfl

theorem served_concat (registry : Registry) (requests : List Request) (request : Request) :
    registry.served (requests ++ [request]) = registry.served requests ++
      [(request, ((requests.foldl (fun registry request => (registry.serve request).2)
        registry).serve request).1)] := by
  induction requests generalizing registry with
  | nil => rfl
  | cons first later ih =>
      rw [List.cons_append, served, served, ih]
      rfl

theorem received_concat (name : SubscriberName) (requests : List Request) (request : Request) :
    received name (requests ++ [request]) = received name requests ++
      noticesTo name ((after requests).serve request).1.deliveries := by
  rw [received, served_concat, List.flatMap_append, noticesTo_append, List.flatMap_singleton]
  rfl

theorem registrations_concat (name : SubscriberName) (requests : List Request)
    (request : Request) :
    registrations name (requests ++ [request]) = registrations name requests +
      if request = .subscribe name ∧ ((after requests).serve request).1.accepted = some true
      then 1 else 0 := by
  rw [registrations, served_concat, List.countP_append, List.countP_singleton]
  simp only [Bool.and_eq_true, decide_eq_true_eq]
  rfl

theorem isIn_concat (name : SubscriberName) (requests : List Request) (request : Request) :
    IsIn name (requests ++ [request]) ↔
      request = .subscribe name ∨ IsIn name requests ∧ request ≠ .unsubscribe name := by
  constructor
  · rintro ⟨before, during, hrequests, hstayed⟩
    rcases List.eq_nil_or_concat during with rfl | ⟨earlier, last, rfl⟩
    · exact .inl (List.append_inj' hrequests rfl |>.2 |> List.singleton_inj.1)
    · rw [List.concat_eq_append, ← List.cons_append, ← List.append_assoc] at hrequests
      obtain ⟨hearlier, hlast⟩ := List.append_inj' hrequests rfl
      rw [List.concat_eq_append, List.mem_append, not_or, List.mem_singleton] at hstayed
      refine .inr ⟨⟨before, earlier, hearlier, hstayed.1⟩, ?_⟩
      rw [List.singleton_inj.1 hlast]
      exact fun hleaves => hstayed.2 hleaves.symm
  · rintro (rfl | ⟨⟨before, during, rfl, hstayed⟩, hrequest⟩)
    · exact ⟨requests, [], rfl, List.not_mem_nil⟩
    · refine ⟨before, during ++ [request], by simp, ?_⟩
      rw [List.mem_append, not_or, List.mem_singleton]
      exact ⟨hstayed, hrequest.symm⟩

/-- Who is registered can be told from the requests. -/
theorem contains_after (requests : List Request) (name : SubscriberName) :
    (after requests).contains name ↔ IsIn name requests := by
  induction requests using List.reverseRecOn with
  | nil =>
      refine ⟨fun hin => absurd hin Bool.false_ne_true, ?_⟩
      rintro ⟨before, during, hrequests, -⟩
      simp at hrequests
  | append_singleton requests request ih =>
      rw [after_concat, contains_serve, isIn_concat, ih]

/-! ## Whole stays -/

theorem received_during (hout : ¬ IsIn name requests) {during : List Request}
    (hstayed : .unsubscribe name ∉ during) :
    received name (requests ++ .subscribe name :: during) =
      received name requests ++ .connected :: during.filterMap Request.notice? := by
  induction during using List.reverseRecOn with
  | nil =>
      rw [received_concat, serve_subscribe_of_not_contains (by rwa [contains_after]),
        noticesTo_self]
      rfl
  | append_singleton during request ih =>
      rw [List.mem_append, not_or, List.mem_singleton] at hstayed
      have hin : (after (requests ++ .subscribe name :: during)).contains name :=
        (contains_after _ _).2 ⟨requests, during, rfl, hstayed.1⟩
      have hgiven := noticesTo_serve_of_contains hin (Ne.symm hstayed.2)
      rw [← List.cons_append, ← List.append_assoc, received_concat, hgiven, ih hstayed.1,
        List.filterMap_append, List.append_assoc, List.cons_append]
      cases request <;> rfl

theorem received_away (hout : ¬ IsIn name requests) {during : List Request}
    (haway : .subscribe name ∉ during) :
    received name (requests ++ during) = received name requests ∧
      ¬ IsIn name (requests ++ during) := by
  induction during using List.reverseRecOn with
  | nil => simpa using hout
  | append_singleton during request ih =>
      rw [List.mem_append, not_or, List.mem_singleton] at haway
      obtain ⟨hreceived, hstill⟩ := ih haway.1
      have hnotIn : ¬ (after (requests ++ during)).contains name := by rwa [contains_after]
      rw [← List.append_assoc, received_concat, isIn_concat, hreceived,
        noticesTo_serve_of_not_contains hnotIn (Ne.symm haway.2), List.append_nil]
      exact ⟨rfl, fun hor => hor.elim (Ne.symm haway.2) fun hin => hstill hin.1⟩

theorem received_unsubscribe (hin : IsIn name requests) :
    received name (requests ++ [.unsubscribe name]) =
      received name requests ++ [.disconnected] := by
  rw [received_concat, serve_unsubscribe_of_contains ((contains_after _ _).2 hin),
    noticesTo_self]

/-! ## Coming and going by turns -/

theorem visits_succ (count : Nat) :
    visits (count + 1) = visits count ++ [.connected, .disconnected] := by
  rw [visits, List.replicate_succ', List.flatten_append]
  rfl

theorem filter_isConnection_notice? (request : Request) :
    request.notice?.toList.filter isConnection = [] := by
  cases request with
  | announce news => cases news <;> rfl
  | subscribe name => rfl
  | unsubscribe name => rfl

theorem registrations_concat_of_contains (hin : IsIn name requests) (request : Request) :
    registrations name (requests ++ [request]) = registrations name requests := by
  rw [registrations_concat, if_neg, Nat.add_zero]
  rintro ⟨rfl, haccepted⟩
  rw [serve_subscribe_of_contains ((contains_after _ _).2 hin)] at haccepted
  simp at haccepted

theorem registrations_concat_subscribe (hout : ¬ IsIn name requests) :
    registrations name (requests ++ [.subscribe name]) = registrations name requests + 1 := by
  rw [registrations_concat, serve_subscribe_of_not_contains (by rwa [contains_after]),
    if_pos ⟨rfl, rfl⟩]

/-- Coming and going alternate, with one pair for every time that the subscriber was let in;
the last pair is open while the subscriber is in. -/
theorem connections_eq (name : SubscriberName) (requests : List Request) :
    (¬ IsIn name requests → connections name requests = visits (registrations name requests)) ∧
      (IsIn name requests →
        connections name requests ++ [.disconnected] = visits (registrations name requests)) := by
  induction requests using List.reverseRecOn with
  | nil =>
      refine ⟨fun _ => rfl, ?_⟩
      rintro ⟨before, during, hrequests, -⟩
      simp at hrequests
  | append_singleton requests request ih =>
      have hin_iff := isIn_concat name requests request
      have hconnections : connections name (requests ++ [request]) = connections name requests ++
          (noticesTo name ((after requests).serve request).1.deliveries).filter isConnection := by
        rw [connections, received_concat, List.filter_append]
        rfl
      by_cases hin : IsIn name requests
      · have hcontains := (contains_after requests name).2 hin
        rw [registrations_concat_of_contains hin]
        by_cases hrequest : request = .unsubscribe name
        · subst hrequest
          rw [serve_unsubscribe_of_contains hcontains, noticesTo_self] at hconnections
          refine ⟨fun _ => ?_, fun hstill => ?_⟩
          · rw [hconnections, ← ih.2 hin]
            rfl
          · simp at hin_iff
            exact absurd hstill hin_iff
        · rw [noticesTo_serve_of_contains hcontains hrequest, filter_isConnection_notice?,
            List.append_nil] at hconnections
          refine ⟨fun hgone => absurd (hin_iff.2 (.inr ⟨hin, hrequest⟩)) hgone, fun _ => ?_⟩
          rw [hconnections, ih.2 hin]
      · have hcontains : ¬ (after requests).contains name := by rwa [contains_after]
        by_cases hrequest : request = .subscribe name
        · subst hrequest
          rw [serve_subscribe_of_not_contains hcontains, noticesTo_self] at hconnections
          refine ⟨fun hgone => absurd (hin_iff.2 (.inl rfl)) hgone, fun _ => ?_⟩
          rw [hconnections, registrations_concat_subscribe hin, visits_succ, ← ih.1 hin,
            List.append_assoc]
          rfl
        · rw [noticesTo_serve_of_not_contains hcontains hrequest, List.filter_nil,
            List.append_nil] at hconnections
          refine ⟨fun _ => ?_, fun hstill => ?_⟩
          · rw [hconnections, registrations_concat, if_neg fun hboth => hrequest hboth.1, ih.1 hin]
            rfl
          · exact absurd (hin_iff.1 hstill) (by simp [hrequest, hin])

theorem count_visits {notice : Notice} (hnotice : isConnection notice) (count : Nat) :
    (visits count).count notice = count := by
  induction count with
  | zero => rfl
  | succ count ih =>
      rw [visits_succ, List.count_append, ih]
      cases notice
      case connected | disconnected => rfl
      all_goals exact absurd hnotice Bool.false_ne_true

theorem count_connections {notice : Notice} (hnotice : isConnection notice)
    (name : SubscriberName) (requests : List Request) :
    (connections name requests).count notice = (received name requests).count notice :=
  List.count_filter hnotice

/-- A subscriber is in exactly while it has been let in once more than out. -/
theorem isIn_iff_count (name : SubscriberName) (requests : List Request) :
    IsIn name requests ↔ (received name requests).count .disconnected <
      (received name requests).count .connected := by
  rw [← count_connections rfl, ← count_connections rfl]
  obtain ⟨houtside, hinside⟩ := connections_eq name requests
  by_cases hin : IsIn name requests
  · have hclosed := hinside hin
    have hconnected := congrArg (List.count .connected) hclosed
    have hdisconnected := congrArg (List.count .disconnected) hclosed
    rw [List.count_append, count_visits rfl] at hconnected hdisconnected
    have hlast : [Notice.disconnected].count .connected = 0 := rfl
    have hself : [Notice.disconnected].count .disconnected = 1 := rfl
    simp only [hin, true_iff]
    omega
  · rw [houtside hin, count_visits rfl, count_visits rfl]
    simp [hin]

theorem size_after (requests : List Request) :
    (after requests).size = {name | IsIn name requests}.ncard := by
  have hkeys : {name | IsIn name requests} = (after requests).keys.toFinset := by
    ext name
    rw [Set.mem_ofPred_eq, ← contains_after, ← OrdMap.mem_keys, Finset.mem_coe, List.mem_toFinset]
  rw [hkeys, Set.ncard_coe_finset, List.toFinset_card_of_nodup (after requests).keys_nodup]
  exact (List.length_map _).symm

/-- A subscriber is let in when it is out and let out when it is in, and only then a request
of its own calls anybody: the subscriber itself, once.  News reaches exactly those who are in,
once each.  So during a stay a subscriber hears that it came, all the news in their order, and
that it left, and outside its stays it hears nothing; and those are in who were let in once
more than out. -/
theorem subscribers_hear_their_stays (requests : List Request) :
    (∀ name, IsIn name requests →
      (after requests).serve (.subscribe name) = (⟨some false, []⟩, after requests) ∧
        ((after requests).serve (.unsubscribe name)).1 =
          ⟨some true, [⟨name, .disconnected⟩]⟩) ∧
      (∀ name, ¬ IsIn name requests →
        ((after requests).serve (.subscribe name)).1 = ⟨some true, [⟨name, .connected⟩]⟩ ∧
          (after requests).serve (.unsubscribe name) = (⟨some false, []⟩, after requests)) ∧
      (∀ news, ((after requests).serve (.announce news)).1.deliveries.Nodup ∧
        ∀ delivery, delivery ∈ ((after requests).serve (.announce news)).1.deliveries ↔
          delivery.notice = news.notice ∧ IsIn delivery.subscriber requests) ∧
      (∀ name during, ¬ IsIn name requests → .unsubscribe name ∉ during →
        received name (requests ++ .subscribe name :: during) =
            received name requests ++ .connected :: during.filterMap Request.notice? ∧
          received name (requests ++ .subscribe name :: during ++ [.unsubscribe name]) =
            received name requests ++ .connected :: during.filterMap Request.notice? ++
              [.disconnected]) ∧
      (∀ name during, ¬ IsIn name requests → .subscribe name ∉ during →
        received name (requests ++ during) = received name requests) ∧
      (∀ name,
        (¬ IsIn name requests →
          connections name requests = visits (registrations name requests)) ∧
        (IsIn name requests → connections name requests ++ [.disconnected] =
          visits (registrations name requests))) ∧
      (after requests).size = {name | (received name requests).count .disconnected <
        (received name requests).count .connected}.ncard := by
  refine ⟨fun name hin => ?_, fun name hout => ?_, fun news => ⟨?_, fun delivery => ?_⟩,
    fun name during hout hstayed => ?_, fun name during hout haway => ?_,
    fun name => connections_eq name requests, ?_⟩
  · have hcontains := (contains_after requests name).2 hin
    rw [serve_subscribe_of_contains hcontains, serve_unsubscribe_of_contains hcontains]
    exact ⟨rfl, rfl⟩
  · have hcontains : ¬ (after requests).contains name := by rwa [contains_after]
    rw [serve_subscribe_of_not_contains hcontains, serve_unsubscribe_of_not_contains hcontains]
    exact ⟨rfl, rfl⟩
  · rw [serve, List.nodup_iff_count_le_one]
    intro delivery
    rw [count_deliveries]
    split <;> decide
  · rw [serve, ← List.count_pos_iff, count_deliveries, ← contains_after]
    split
    · next hboth => simpa using hboth
    · next hnotBoth => simpa using hnotBoth
  · have hin : IsIn name (requests ++ .subscribe name :: during) :=
      ⟨requests, during, rfl, hstayed⟩
    have hduring := received_during hout hstayed
    exact ⟨hduring, by rw [received_unsubscribe hin, hduring]⟩
  · exact (received_away hout haway).1
  · rw [size_after]
    simp only [isIn_iff_count]

/-- One subscriber stays, asks again in vain and misses nothing; another comes later and hears
of nothing that was said before it came or after it left. -/
theorem subscribers_hear_their_stays_camera :
    let requests : List Request :=
      [.subscribe "camera", .subscribe "camera", .announce (.trim .low)]
    IsIn "camera" requests ∧ ¬ IsIn "gallery" requests ∧
      (after requests).serve (.subscribe "camera") = (⟨some false, []⟩, after requests) ∧
      received "gallery" (requests ++ .subscribe "gallery" ::
          [.announce (.forceReclaim 7 1)] ++ [.unsubscribe "gallery"]) =
        received "gallery" requests ++ [.connected, .forceReclaim 7 1, .disconnected] := by
  intro requests
  have hin : IsIn "camera" requests :=
    ⟨[.subscribe "camera"], [.announce (.trim .low)], rfl, by decide⟩
  have hout : ¬ IsIn "gallery" requests := by
    rw [← contains_after]
    decide
  obtain ⟨hinside, -, -, hstay, -⟩ := subscribers_hear_their_stays requests
  exact ⟨hin, hout, (hinside "camera" hin).1,
    (hstay "gallery" [.announce (.forceReclaim 7 1)] hout (by decide)).2⟩

end MemoryReclaim.Registry
