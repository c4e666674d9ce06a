import VertexBinding.Proofs.Matching.Locations
import VertexBinding.Proofs.Matching.Session
import Mathlib.Data.List.Nodup
import Mathlib.Data.List.ReduceOption

/-! # Requests — a pool that is asked again and again

    Whoever holds a pool asks it for the attribute of a field, or only for the name of
    that attribute, and goes on with what is left.  A request that is refused leaves the
    pool as it was.

    A request for a name takes the same candidate as the other kind, so a session of
    requests is a session of fields that goes on behind failures (`replies_takeEach`).
    What such a session keeps is that nothing is lost and nothing doubled:
    `takeBest_perm` is the step, `takeEach_keeps` the run. -/

namespace VertexBinding.Pool

/-- What a pool can be asked for. -/
inductive Request where
  /-- The attribute that fits a field best. -/
  | take (field : Declaration)
  /-- The name of that attribute. -/
  | resolve (field : Declaration)
  deriving DecidableEq, Repr

/-- The field that a request is about. -/
def Request.field : Request → Declaration
  | take field => field
  | resolve field => field

/-- What a pool replies. -/
inductive Reply where
  | candidate (c : Candidate)
  | named (name : String)
  | refused (cause : NoMatch)
  deriving DecidableEq, Repr

/-- The reply gives out a candidate, or the name of one. -/
def Reply.Gives : Reply → Candidate → Prop
  | candidate c, c' => c = c'
  | named name, c => name = c.name
  | refused _, _ => False

def Reply.isRefused : Reply → Bool
  | refused _ => true
  | _ => false

/-- What a pool replies to a request, and the pool behind it. -/
def reply (pool : Pool) : Request → Reply × Pool
  | .take field =>
      match pool.takeBest field with
      | .ok (c, rest) => (.candidate c, rest)
      | .error e => (.refused e, pool)
  | .resolve field =>
      match pool.resolve field with
      | .ok (name, rest) => (.named name, rest)
      | .error e => (.refused e, pool)

/-- The replies to requests in order, and the pool behind them. -/
def replies : Pool → List Request → List Reply × Pool
  | pool, [] => ([], pool)
  | pool, request :: requests =>
      let (r, rest) := pool.reply request
      let (rs, last) := rest.replies requests
      (r :: rs, last)

variable {pool rest : Pool} {request : Request} {c : Candidate} {field : Declaration}

/-! ## One request -/

/-- A request is granted exactly if its field is served, and gives out what the field
    takes. -/
theorem reply_of_ok (h : pool.takeBest request.field = .ok (c, rest)) :
    ∃ r : Reply, pool.reply request = (r, rest) ∧ r.Gives c ∧ r.isRefused = false := by
  cases request with
  | take field =>
      refine ⟨.candidate c, ?_, rfl, rfl⟩
      rw [reply, show pool.takeBest field = _ from h]
  | resolve field =>
      refine ⟨.named c.name, ?_, rfl, rfl⟩
      rw [reply, resolve, show pool.takeBest field = _ from h]
      rfl

theorem reply_of_error {e : NoMatch} (h : pool.takeBest request.field = .error e) :
    pool.reply request = (.refused e, pool) := by
  cases request with
  | take field => rw [reply, show pool.takeBest field = _ from h]
  | resolve field =>
      rw [reply, resolve, show pool.takeBest field = _ from h]
      rfl

/-- **NOTHING LOST**: what a field takes and what it leaves are the pool. -/
theorem takeBest_perm (h : pool.takeBest field = .ok (c, rest)) :
    rest.candidates.Sublist pool.candidates ∧ (c :: rest.candidates).Perm pool.candidates := by
  obtain ⟨before, after, hpool, hrest, -⟩ := takeBest_eq_ok_iff.mp h
  rw [hpool, hrest]
  exact ⟨(List.sublist_cons_self c after).append_left before, List.perm_middle.symm⟩

/-! ## Sessions -/

theorem replies_cons (pool : Pool) (request : Request) (requests : List Request) :
    pool.replies (request :: requests)
      = ((pool.reply request).1 :: ((pool.reply request).2.replies requests).1,
          ((pool.reply request).2.replies requests).2) := rfl

/-- A session of requests is the session of their fields that goes on behind failures. -/
theorem replies_takeEach (pool : Pool) (requests : List Request) :
    List.Forall₂ Reply.Gives ((pool.replies requests).1.filter (fun r => !r.isRefused))
        (pool.takeEach (requests.map Request.field)).1.reduceOption ∧
      (pool.replies requests).2 = (pool.takeEach (requests.map Request.field)).2 := by
  induction requests generalizing pool with
  | nil => exact ⟨.nil, rfl⟩
  | cons request requests ih =>
      rw [List.map_cons, replies_cons]
      cases htake : pool.takeBest request.field with
      | ok r =>
          obtain ⟨c, rest⟩ := r
          obtain ⟨r, hreply, hgives, hgranted⟩ := reply_of_ok htake
          obtain ⟨hrest, hlast⟩ := ih rest
          rw [takeEach_cons_ok htake, hreply, List.reduceOption_cons_of_some,
            List.filter_cons_of_pos (by rw [hgranted]; rfl)]
          exact ⟨.cons hgives hrest, hlast⟩
      | error e =>
          obtain ⟨hrest, hlast⟩ := ih pool
          rw [takeEach_cons_error htake, reply_of_error htake, List.reduceOption_cons_of_none,
            List.filter_cons_of_neg (by exact Bool.false_ne_true)]
          exact ⟨hrest, hlast⟩

/-- **RUN**: what the fields of a session take and what they leave are the pool. -/
theorem takeEach_keeps (pool : Pool) (fields : List Declaration) :
    (pool.takeEach fields).2.candidates.Sublist pool.candidates ∧
      ((pool.takeEach fields).1.reduceOption ++ (pool.takeEach fields).2.candidates).Perm
        pool.candidates := by
  induction fields generalizing pool with
  | nil => exact ⟨List.Sublist.refl _, List.Perm.refl _⟩
  | cons field fields ih =>
      cases htake : pool.takeBest field with
      | ok r =>
          obtain ⟨c, rest⟩ := r
          obtain ⟨hsub, hperm⟩ := takeBest_perm htake
          obtain ⟨hsub', hperm'⟩ := ih rest
          rw [takeEach_cons_ok htake, List.reduceOption_cons_of_some]
          exact ⟨hsub'.trans hsub, (hperm'.cons c).trans hperm⟩
      | error e =>
          rw [takeEach_cons_error htake, List.reduceOption_cons_of_none]
          exact ih pool

/-! ## What every session keeps -/

/-- What was taken from the attributes of a shader, and the pool that is left, account for
    all of them. -/
structure Accounts (declared : List Declaration) (taken : List Candidate) (pool : Pool) : Prop where
  /-- What is left stands in the order of the fresh pool. -/
  sublist : pool.candidates.Sublist (ofDeclarations declared).candidates
  /-- Its locations increase. -/
  increasing : (pool.candidates.map Candidate.location).Pairwise (· < ·)
  /-- Each location is the index of the declaration. -/
  located : ∀ c ∈ pool.candidates, declared[c.location]? = some c.declaration
  /-- With what was taken it makes up the fresh pool. -/
  complete : (taken ++ pool.candidates).Perm (ofDeclarations declared).candidates
  /-- No candidate occurs twice. -/
  nodup : (taken ++ pool.candidates).Nodup

theorem accounts_of_perm {declared : List Declaration} {taken : List Candidate}
    (hcount : declared.length ≤ locationLimit)
    (hsub : pool.candidates.Sublist (ofDeclarations declared).candidates)
    (hperm : (taken ++ pool.candidates).Perm (ofDeclarations declared).candidates) :
    Accounts declared taken pool := by
  have hstart := candidates_ofDeclarations hcount
  have hincreasing : ((ofDeclarations declared).candidates.map Candidate.location).Pairwise
      (· < ·) := by
    rw [hstart]
    exact unclaimed_pairwise declared []
  have hnodup : (ofDeclarations declared).candidates.Nodup :=
    List.Nodup.of_map Candidate.location (hincreasing.imp Nat.ne_of_lt)
  refine ⟨hsub, hincreasing.sublist (hsub.map _), ?_, hperm, hperm.nodup_iff.mpr hnodup⟩
  intro c hc
  have hmem := hsub.subset hc
  rw [hstart] at hmem
  exact (mem_unclaimed.mp hmem).1

/-- **EVERY SESSION KEEPS THE CANDIDATES**: after any requests, granted or refused, what is
    left of a fresh pool stands in its order with increasing locations, and with what was
    given out it is the fresh pool, each candidate once.  One more request takes one
    candidate from the pool, or is refused and leaves the pool as it is. -/
theorem session_keeps_candidates {declared : List Declaration} {requests : List Request}
    {rs : List Reply} {pool : Pool} (hcount : declared.length ≤ locationLimit)
    (hsession : (ofDeclarations declared).replies requests = (rs, pool)) :
    (∃ taken, List.Forall₂ Reply.Gives (rs.filter (fun r => !r.isRefused)) taken ∧
      Accounts declared taken pool) ∧
    ∀ request,
      ((pool.reply request).1.isRefused = false ∧
        (pool.reply request).2.size + 1 = pool.size) ∨
      ((pool.reply request).1.isRefused = true ∧ (pool.reply request).2 = pool) := by
  obtain ⟨hgives, hlast⟩ := replies_takeEach (ofDeclarations declared) requests
  obtain ⟨hsub, hperm⟩ := takeEach_keeps (ofDeclarations declared) (requests.map Request.field)
  rw [hsession] at hgives hlast
  rw [← hlast] at hsub hperm
  refine ⟨⟨_, hgives, accounts_of_perm hcount hsub hperm⟩, ?_⟩
  intro request
  cases htake : pool.takeBest request.field with
  | ok p =>
      obtain ⟨c, rest⟩ := p
      obtain ⟨r, hreply, -, hgranted⟩ := reply_of_ok htake
      rw [hreply]
      exact Or.inl ⟨hgranted, (takeBest_perm htake).2.length_eq⟩
  | error e =>
      rw [reply_of_error htake]
      exact Or.inr ⟨rfl, rfl⟩

/-- Two attributes of one name, a field that is refused, and both kinds of requests. -/
theorem session_keeps_candidates_namesakes :
    (∃ taken, List.Forall₂ Reply.Gives [.named "a_UV", .candidate ⟨3, ⟨"a_UV", "vec2"⟩⟩] taken ∧
      Accounts [⟨"a_Pos", "vec3"⟩, ⟨"a_UV", "vec2"⟩, ⟨"a_Fog", "float"⟩, ⟨"a_UV", "vec2"⟩] taken
        ⟨[⟨0, ⟨"a_Pos", "vec3"⟩⟩, ⟨2, ⟨"a_Fog", "float"⟩⟩]⟩) ∧
    (reply ⟨[⟨0, ⟨"a_Pos", "vec3"⟩⟩, ⟨2, ⟨"a_Fog", "float"⟩⟩]⟩
      (.take ⟨"uv", "[f32; 2]"⟩)).1.isRefused = true := by
  have hsession : (ofDeclarations [⟨"a_Pos", "vec3"⟩, ⟨"a_UV", "vec2"⟩, ⟨"a_Fog", "float"⟩,
      ⟨"a_UV", "vec2"⟩]).replies [.resolve ⟨"uv", "[f32; 2]"⟩, .take ⟨"tangent", "[f32; 4]"⟩,
        .take ⟨"tex_coord", "[f32; 2]"⟩]
      = ([.named "a_UV", .refused ⟨"tangent", ["a_Pos", "a_Fog", "a_UV"]⟩,
          .candidate ⟨3, ⟨"a_UV", "vec2"⟩⟩],
        ⟨[⟨0, ⟨"a_Pos", "vec3"⟩⟩, ⟨2, ⟨"a_Fog", "float"⟩⟩]⟩) := by
    decide +kernel
  obtain ⟨hkept, hnext⟩ := session_keeps_candidates (by decide) hsession
  refine ⟨hkept, ?_⟩
  rcases hnext (.take ⟨"uv", "[f32; 2]"⟩) with ⟨-, hsize⟩ | ⟨hrefused, -⟩
  · exact absurd hsize (by decide +kernel)
  · exact hrefused

end VertexBinding.Pool
