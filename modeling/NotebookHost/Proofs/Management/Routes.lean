import NotebookHost.Management
import NotebookHost.Proofs.Text.Split
import Mathlib.Logic.ExistsUnique

namespace NotebookHost.Management

open Text

inductive Place where
  | health
  | version
  | notebooks
  | notebook (id : String)
  | status (id : String)
  | reload (id : String)

namespace Place

inductive IsAt : Place → String → Prop
  | health : IsAt .health "/health"
  | version : IsAt .version "/version"
  | notebooks : IsAt .notebooks "/api/v1/notebooks"
  | notebook {id : String} (nonempty : id ≠ "") (segment : '/' ∉ id.toList) :
      IsAt (.notebook id) ("/api/v1/notebooks/" ++ id)
  | status {id : String} (segment : '/' ∉ id.toList) : IsAt (.status id) ("/api/v1/notebooks/" ++ (id ++ "/status"))
  | reload {id : String} (segment : '/' ∉ id.toList) : IsAt (.reload id) ("/api/v1/notebooks/" ++ (id ++ "/reload"))

def routes : Place → List (String × Route)
  | .health => [("GET", .health)]
  | .version => [("GET", .version)]
  | .notebooks => [("GET", .list), ("POST", .create)]
  | .notebook id => [("GET", .get id), ("PUT", .update id), ("DELETE", .delete id)]
  | .status id => [("GET", .status id)]
  | .reload id => [("POST", .reload id)]

end Place

def choose (method : String) : List (String × Route) → Route
  | [] => .methodNotAllowed
  | (taken, route) :: rest => if method = taken then route else choose method rest

/-- The path without the slashes at its end, if it is not a single character. -/
def IsBare (path q : String) : Prop :=
  if path.length = 1 then q = path
  else q.toList.getLast? ≠ some '/' ∧ ∃ slashes, path.toList = q.toList ++ List.replicate slashes '/'

inductive IsRouted (method q : String) : Route → Prop
  | served {place : Place} {route : Route} (at_place : place.IsAt q) (taken : (method, route) ∈ place.routes) :
      IsRouted method q route
  | refused {place : Place} (at_place : place.IsAt q) (other : ∀ route, (method, route) ∉ place.routes) :
      IsRouted method q .methodNotAllowed
  | astray (nowhere : ∀ place : Place, ¬ place.IsAt q) : IsRouted method q .notFound

theorem withoutFinalSlashes_eq {path : List Char} (h : path ≠ ['/']) :
    Route.withoutFinalSlashes path = path.rdropWhile (· == '/') := by
  rcases path with _ | ⟨c, _ | ⟨d, r⟩⟩
  · rfl
  · have hc : ¬(c == '/') = true := by
      rw [beq_iff_eq]
      rintro rfl
      exact h rfl
    rw [List.rdropWhile_singleton, if_neg hc]
    rfl
  · exact if_pos (by simp)

theorem isBare_iff {path q : String} : IsBare path q ↔ q.toList = Route.withoutFinalSlashes path.toList := by
  rw [IsBare]
  split_ifs with hlength
  · have hkept : Route.withoutFinalSlashes path.toList = path.toList := if_neg (by rw [String.length_toList]; omega)
    rw [hkept, String.toList_inj]
  · have hpath : path.toList ≠ ['/'] := by
      intro h
      exact hlength (by rw [← String.length_toList, h, List.length_singleton])
    rw [withoutFinalSlashes_eq hpath]
    constructor
    · rintro ⟨hlast, slashes, hpath⟩
      rw [hpath]
      refine (rdropWhile_append ?_ ?_).symm
      · intro c hc
        rw [beq_eq_false_iff_ne]
        rintro rfl
        exact hlast hc
      · intro c hc
        exact beq_iff_eq.mpr (List.eq_of_mem_replicate hc)
    · intro hq
      rw [hq]
      refine ⟨?_, (path.toList.rtakeWhile (· == '/')).length, ?_⟩
      · intro hlast
        exact absurd (getLast?_rdropWhile hlast) (by decide)
      · rw [← rtakeWhile_beq, List.rdropWhile_append_rtakeWhile]

theorem bare_unique (path : String) : ∃! q, IsBare path q := by
  refine ⟨String.ofList (Route.withoutFinalSlashes path.toList), isBare_iff.mpr String.toList_ofList, ?_⟩
  intro q hq
  rw [← isBare_iff.mp hq, String.ofList_toList]

theorem IsBare.getLast?_below {path q : String} (h : IsBare path q) {rest : List Char}
    (hrest : q.toList = Route.base ++ '/' :: rest) : ('/' :: rest).getLast? ≠ some '/' := by
  have hlong : 1 < q.length := by
    have hbase : Route.base.length = 17 := rfl
    rw [← String.length_toList, hrest, List.length_append]
    omega
  rw [IsBare] at h
  split_ifs at h with hlength
  · rw [h] at hlong
    omega
  · have hlast := h.1
    rwa [hrest, List.getLast?_append_of_ne_nil _ (List.cons_ne_nil _ _)] at hlast

theorem split_eq_singleton_iff {sep : Char} {s p : List Char} : split sep s = [p] ↔ s = p ∧ sep ∉ s := by
  constructor
  · intro h
    have hs : s = p := by
      rw [← join_split sep s, h]
      rfl
    rw [hs]
    exact ⟨rfl, not_mem_of_mem_split (by rw [h]; exact List.mem_singleton_self p)⟩
  · rintro ⟨rfl, hsep⟩
    exact split_of_not_mem hsep

theorem split_eq_pair_iff {sep : Char} {s p q : List Char} :
    split sep s = [p, q] ↔ s = p ++ sep :: q ∧ sep ∉ p ∧ sep ∉ q := by
  constructor
  · intro h
    have hs : s = p ++ sep :: q := by
      rw [← join_split sep s, h]
      rfl
    exact ⟨hs, not_mem_of_mem_split (s := s) (by simp [h]), not_mem_of_mem_split (s := s) (by simp [h])⟩
  · rintro ⟨rfl, hp, hq⟩
    rw [split_append, split_of_not_mem hp, split_of_not_mem hq]
    rfl

theorem choose_of_mem {method : String} {route : Route} {routes : List (String × Route)}
    (distinct : (routes.map (·.1)).Nodup) (h : (method, route) ∈ routes) : choose method routes = route := by
  induction routes with
  | nil => cases h
  | cons first rest ih =>
    obtain ⟨hfirst, hrest⟩ := List.nodup_cons.mp distinct
    obtain ⟨taken, route'⟩ := first
    rcases List.mem_cons.mp h with heq | hmem
    · cases heq
      exact if_pos rfl
    · have hne : method ≠ taken := by
        rintro rfl
        exact hfirst (List.mem_map_of_mem (f := (·.1)) hmem)
      rw [choose, if_neg hne, ih hrest hmem]

theorem choose_cases (method : String) (routes : List (String × Route)) :
    (method, choose method routes) ∈ routes ∨
      (∀ route, (method, route) ∉ routes) ∧ choose method routes = .methodNotAllowed := by
  induction routes with
  | nil => exact .inr ⟨fun _ => List.not_mem_nil, rfl⟩
  | cons first rest ih =>
    obtain ⟨taken, route⟩ := first
    by_cases hmethod : method = taken
    · rw [choose, if_pos hmethod, hmethod]
      exact .inl List.mem_cons_self
    · rw [choose, if_neg hmethod]
      rcases ih with hmem | ⟨hnone, hchoose⟩
      · exact .inl (List.mem_cons_of_mem _ hmem)
      · refine .inr ⟨?_, hchoose⟩
        intro route' hmem
        rcases List.mem_cons.mp hmem with heq | hmem
        · exact hmethod (Prod.mk.inj heq).1
        · exact hnone route' hmem

theorem Place.distinct_routes (place : Place) : (place.routes.map (·.1)).Nodup := by
  cases place <;> simp [routes]

theorem toList_below (rest : String) : ("/api/v1/notebooks/" ++ rest).toList = Route.base ++ '/' :: rest.toList := by
  rw [String.toList_append]
  rfl

theorem ofRequest_below {path q : String} (hq : IsBare path q) {rest : List Char}
    (hrest : q.toList = Route.base ++ '/' :: rest) (method : String) :
    Route.ofRequest method path = Route.ofSegments method ((split '/' rest).map String.ofList) := by
  have hbelow : dropStart? (Route.base ++ ['/']) (Route.base ++ '/' :: rest) = some rest :=
    dropStart?_eq_some_iff.mpr (by simp)
  have hhealth : Route.base ++ '/' :: rest ≠ "/health".toList := by
    intro h
    cases h
  have hversion : Route.base ++ '/' :: rest ≠ "/version".toList := by
    intro h
    cases h
  have hbase : Route.base ++ '/' :: rest ≠ Route.base := by simp
  rw [Route.ofRequest, ← isBare_iff.mp hq, hrest, if_neg hhealth, if_neg hversion, if_neg hbase, hbelow]

theorem ofRequest_action {path q id action : String} (hq : IsBare path q)
    (hrest : q.toList = Route.base ++ '/' :: (id.toList ++ '/' :: action.toList)) (hid : '/' ∉ id.toList)
    (haction : '/' ∉ action.toList) (method : String) :
    Route.ofRequest method path = Route.ofSegments method [id, action] := by
  rw [ofRequest_below hq hrest, split_eq_pair_iff.mpr ⟨rfl, hid, haction⟩, List.map_cons, List.map_singleton,
    String.ofList_toList, String.ofList_toList]

theorem ofRequest_of_isAt {place : Place} {path q : String} (hq : IsBare path q) (h : place.IsAt q) (method : String) :
    Route.ofRequest method path = choose method place.routes := by
  cases h with
  | health =>
    rw [Route.ofRequest, ← isBare_iff.mp hq, if_pos rfl]
    rfl
  | version =>
    rw [Route.ofRequest, ← isBare_iff.mp hq, if_neg (by decide), if_pos rfl]
    rfl
  | notebooks =>
    rw [Route.ofRequest, ← isBare_iff.mp hq, if_neg (by decide), if_neg (by decide)]
    exact if_pos rfl
  | @notebook id _ segment =>
    rw [ofRequest_below hq (toList_below id), split_of_not_mem segment, List.map_singleton, String.ofList_toList]
    rfl
  | @status id segment =>
    have hrest : ("/api/v1/notebooks/" ++ (id ++ "/status")).toList =
        Route.base ++ '/' :: (id.toList ++ '/' :: "status".toList) := by
      rw [toList_below, String.toList_append]
      rfl
    rw [ofRequest_action hq hrest segment (by decide), Route.ofSegments, if_pos rfl]
    rfl
  | @reload id segment =>
    have hrest : ("/api/v1/notebooks/" ++ (id ++ "/reload")).toList =
        Route.base ++ '/' :: (id.toList ++ '/' :: "reload".toList) := by
      rw [toList_below, String.toList_append]
      rfl
    rw [ofRequest_action hq hrest segment (by decide), Route.ofSegments, if_neg (by decide), if_pos rfl]
    rfl

theorem segments_of_nowhere {rest : List Char} (hlast : ('/' :: rest).getLast? ≠ some '/')
    (nowhere : ∀ place : Place, ¬ place.IsAt ("/api/v1/notebooks/" ++ String.ofList rest)) (method : String) :
    Route.ofSegments method ((split '/' rest).map String.ofList) = .notFound := by
  have hpair {id action : List Char} (hsplit : split '/' rest = [id, action]) :
      "/api/v1/notebooks/" ++ String.ofList rest =
        "/api/v1/notebooks/" ++ (String.ofList id ++ String.ofList ('/' :: action)) := by
    rw [(split_eq_pair_iff.mp hsplit).1, String.ofList_append]
  rcases hsplit : split '/' rest with _ | ⟨id, _ | ⟨action, _ | ⟨_, _⟩⟩⟩
  · rfl
  · obtain ⟨rfl, hsegment⟩ := split_eq_singleton_iff.mp hsplit
    refine absurd (.notebook ?_ (by rwa [String.toList_ofList])) (nowhere (.notebook (String.ofList rest)))
    intro hempty
    rw [String.ofList_eq_empty_iff.mp hempty] at hlast
    exact hlast rfl
  · obtain ⟨-, hid, -⟩ := split_eq_pair_iff.mp hsplit
    rw [← String.toList_ofList (l := id)] at hid
    have hstatus : String.ofList action ≠ "status" := by
      intro heq
      obtain rfl : action = "status".toList := by rw [← heq, String.toList_ofList]
      exact nowhere (.status (String.ofList id)) (hpair hsplit ▸ .status hid)
    have hreload : String.ofList action ≠ "reload" := by
      intro heq
      obtain rfl : action = "reload".toList := by rw [← heq, String.toList_ofList]
      exact nowhere (.reload (String.ofList id)) (hpair hsplit ▸ .reload hid)
    rw [List.map_cons, List.map_singleton, Route.ofSegments, if_neg hstatus, if_neg hreload]
  · rfl

theorem ofRequest_of_nowhere {path q : String} (hq : IsBare path q) (nowhere : ∀ place : Place, ¬ place.IsAt q)
    (method : String) : Route.ofRequest method path = .notFound := by
  have hplace {place : Place} {text : String} (h : place.IsAt text) : q.toList ≠ text.toList := by
    intro heq
    exact nowhere place (String.toList_inj.mp heq ▸ h)
  have hbase : q.toList ≠ Route.base := hplace .notebooks
  rw [Route.ofRequest, ← isBare_iff.mp hq, if_neg (hplace .health), if_neg (hplace .version), if_neg hbase]
  cases hrest : dropStart? (Route.base ++ ['/']) q.toList with
  | none => rfl
  | some rest =>
    have hbelow : q.toList = Route.base ++ '/' :: rest := by
      rw [dropStart?_eq_some_iff.mp hrest, List.append_assoc]
      rfl
    have htext : q = "/api/v1/notebooks/" ++ String.ofList rest := by
      rw [← String.toList_inj, toList_below, String.toList_ofList, hbelow]
    exact segments_of_nowhere (hq.getLast?_below hbelow) (htext ▸ nowhere) method

theorem ofRequest_eq_iff {path q : String} (hq : IsBare path q) {method : String} {route : Route} :
    Route.ofRequest method path = route ↔ IsRouted method q route := by
  constructor
  · rintro rfl
    by_cases hplace : ∃ place : Place, place.IsAt q
    · obtain ⟨place, at_place⟩ := hplace
      rw [ofRequest_of_isAt hq at_place]
      rcases choose_cases method place.routes with taken | ⟨other, hchoose⟩
      · exact .served at_place taken
      · rw [hchoose]
        exact .refused at_place other
    · rw [ofRequest_of_nowhere hq (not_exists.mp hplace)]
      exact .astray (not_exists.mp hplace)
  · intro h
    cases h with
    | served at_place taken =>
      rw [ofRequest_of_isAt hq at_place, choose_of_mem (Place.distinct_routes _) taken]
    | @refused place at_place other =>
      rw [ofRequest_of_isAt hq at_place]
      rcases choose_cases method place.routes with taken | ⟨-, hchoose⟩
      · exact absurd taken (other _)
      · exact hchoose
    | astray nowhere => exact ofRequest_of_nowhere hq nowhere method

theorem ofRequest_of_slashes {path : String} (h : ∀ c ∈ path.toList, c = '/') (method : String) :
    Route.ofRequest method path = .notFound := by
  by_cases hone : path.toList = ['/']
  · rw [Route.ofRequest, hone]
    rfl
  · have hnil : path.toList.rdropWhile (· == '/') = [] :=
      List.rdropWhile_eq_nil_iff.mpr fun c hc => beq_iff_eq.mpr (h c hc)
    rw [Route.ofRequest, withoutFinalSlashes_eq hone, hnil]
    rfl

theorem ofRequest_append_slashes (method path : String) (slashes : ℕ) :
    Route.ofRequest method (path ++ String.ofList (List.replicate slashes '/')) = Route.ofRequest method path := by
  have htext : (path ++ String.ofList (List.replicate slashes '/')).toList =
      path.toList ++ List.replicate slashes '/' := by
    rw [String.toList_append, String.toList_ofList]
  by_cases hslashes : ∀ c ∈ path.toList, c = '/'
  · rw [ofRequest_of_slashes hslashes, ofRequest_of_slashes]
    intro c hc
    rw [htext] at hc
    rcases List.mem_append.mp hc with hc | hc
    · exact hslashes c hc
    · exact List.eq_of_mem_replicate hc
  · -- The path has another character, and neither text is a single slash.
    have hne (r : List Char) : path.toList ++ r ≠ ['/'] := by
      intro h
      refine hslashes fun c hc => List.mem_singleton.mp ?_
      rw [← h]
      exact List.mem_append_left r hc
    have hpath : path.toList ≠ ['/'] := by
      have h := hne []
      rwa [List.append_nil] at h
    have hbare : (path.toList ++ List.replicate slashes '/').rdropWhile (· == '/') =
        path.toList.rdropWhile (· == '/') := by
      rw [List.rdropWhile, List.reverse_append, List.reverse_replicate, List.dropWhile_append_of_pos, List.rdropWhile]
      simp
    rw [Route.ofRequest, Route.ofRequest, htext, withoutFinalSlashes_eq (hne _), withoutFinalSlashes_eq hpath, hbare]

theorem paths_are_grammatical (method path : String) :
    (∃! q, IsBare path q) ∧
    (∀ q, IsBare path q → ∀ route, Route.ofRequest method path = route ↔ IsRouted method q route) ∧
    ∀ slashes, Route.ofRequest method (path ++ String.ofList (List.replicate slashes '/')) =
      Route.ofRequest method path :=
  ⟨bare_unique path, fun _ hq _ => ofRequest_eq_iff hq, ofRequest_append_slashes method path⟩

-- The words that name an action are ids where an id stands, and an id may be empty before them.
example : Route.ofRequest "GET" "/api/v1/notebooks/status/" = .get "status" ∧
    Route.ofRequest "POST" "/api/v1/notebooks//reload" = .reload "" ∧
    Route.ofRequest "POST" "/api/v1/notebooks/a/status" = .methodNotAllowed ∧
    Route.ofRequest "GET" "/api/v1/notebooksa" = .notFound := by
  decide +kernel

end NotebookHost.Management
