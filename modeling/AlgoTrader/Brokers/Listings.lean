/-
# Brokers.Listings -- what a listing rules out

Two loops read a listing page by page: the search for an order, whose `None` lets a caller
submit the order again, and the plain listing that balances and fills are computed from.
Both take any page that is not what it should be for a page without rows.

* `find_none_iff` -- the search says `None` exactly when its pages end silently;
* `ruledOut_iff` -- and when that `None` is worth what its docstring says of it;
* `paginate_iff` -- when a server's listing is read whole.
-/
import AlgoTrader.Brokers.Coinbase
import AlgoTrader.Theory.Lives

namespace AlgoTrader.Brokers.Coinbase

open AlgoTrader.Core Theory

set_option autoImplicit false

abbrev BrokerEvent := VenueEvent Cache Request

abbrev BrokerMoment := VenueMoment Cache Request

abbrev BrokerServe := VenueServe Cache Request

/-- What a run of the adapter is held to. -/
abbrev brokerLogic : Logic (venueEffects Cache Request) VenueError BrokerMoment :=
  (Contract.plain BrokerServe fun _ => True).logic

/-! ## Pages of orders -/

/-- The answer to a listing request. -/
def page : BrokerEvent → Option (Except VenueError Json)
  | ⟨.request (.get _ _), reply, _, _⟩ => some reply
  | _ => none

/-- The answers of a run, newest first. -/
def pages (events : List BrokerEvent) : List (Except VenueError Json) := events.filterMap page

/-- A page of orders is an object with a list of them. -/
def OrderPage (payload : Json) : Prop := payload.isMapping ∧ (payload.get "orders").isList

/-- Some order of the page carries the id. -/
def Lists (clientOrderId : String) (payload : Json) : Prop :=
  ∃ items, payload.get "orders" = .list items ∧
    ∃ row ∈ items, row.isMapping ∧ carries clientOrderId row

/-- The page is the last one as far as its cursor and its flag tell. -/
def Ends (payload : Json) : Prop :=
  ¬payload.isMapping ∨ (payload.get "has_next").is false ∨
    ((payload.get "cursor").or (.string "")).str = ""

instance (payload : Json) : Decidable (Ends payload) := by unfold Ends; infer_instance

/-- The page says there are more: by its flag, or by a cursor. -/
def Announces (payload : Json) : Prop := (payload.get "has_next").truthy ∨ ¬Ends payload

/-- The flag of the page is `True`, or does not say there are more. -/
def PlainFlag (payload : Json) : Prop :=
  (payload.get "has_next").truthy → (payload.get "has_next").is true

/-- What `None` is said to mean: every page that was read is a page of orders, none of them
lists the order, and the last one announces no more. -/
def RuledOut (clientOrderId : String) (answers : List (Except VenueError Json)) : Prop :=
  ∃ last earlier, answers = (last :: earlier).map Except.ok ∧
    (∀ payload ∈ last :: earlier, OrderPage payload ∧ ¬Lists clientOrderId payload) ∧
    ¬Announces last

/-- Every page was answered, no row that is read carries the id, and the last page ends the
listing without the flag that there are more. -/
def EndsSilently (clientOrderId : String) (answers : List (Except VenueError Json)) : Prop :=
  ∃ last earlier, answers = (last :: earlier).map Except.ok ∧
    (∀ payload ∈ last :: earlier, ∀ row ∈ rows payload "orders", ¬carries clientOrderId row) ∧
    Ends last ∧ ¬(last.get "has_next").is true

/-! ## When the search says `None` -/

theorem Json.get_of_not_mapping {payload : Json} (other : ¬payload.isMapping) (name : String) :
    payload.get name = .null := by
  cases payload with
  | object members => exact absurd rfl other
  | _ => rfl

theorem nextCursor_ends {payload : Json} (ends : Ends payload) (previous : String) :
    nextCursor payload previous = .ok "" := by
  unfold nextCursor
  split
  · rfl
  · rename_i goes
    simp only [Bool.or_eq_true, Bool.not_eq_true', not_or, Bool.not_eq_false] at goes
    have empty : ((payload.get "cursor").or (.string "")).str = "" := by
      rcases ends with other | flag | empty
      · exact absurd goes.1 other
      · exact absurd flag goes.2
      · exact empty
    simp [empty]

/-- Where a page does not end the listing, its cursor is another one, or the same and refused. -/
theorem nextCursor_goes {payload : Json} (goes : ¬Ends payload) (previous : String) :
    (∃ exc, nextCursor payload previous = .error exc) ∨
      ∃ next, next ≠ "" ∧ nextCursor payload previous = .ok next := by
  obtain ⟨mapping, flag, cursor⟩ : payload.isMapping ∧ ¬(payload.get "has_next").is false ∧
      ((payload.get "cursor").or (.string "")).str ≠ "" := by
    simpa [Ends, not_or] using goes
  unfold nextCursor
  rw [if_neg (by simp [mapping, flag])]
  by_cases same : ((payload.get "cursor").or (.string "")).str = previous
  · exact .inl ⟨_, if_pos ⟨cursor, same⟩⟩
  · exact .inr ⟨_, cursor, if_neg fun both => same both.2⟩

/-- What the search has read before its next request: pages that were answered, carry
nothing, and go on. -/
structure Searched (clientOrderId : String) (earlier : List Json) (m : BrokerMoment) : Prop where
  pages : pages m.events = earlier.map Except.ok
  nothing : ∀ payload ∈ earlier, ∀ row ∈ rows payload "orders", ¬carries clientOrderId row
  goes : ∀ payload ∈ earlier, ¬Ends payload

section Search

variable {clientOrderId : String}

theorem not_silent_of_goes {earlier : List Json} {m : BrokerMoment}
    (searched : Searched clientOrderId earlier m) : ¬EndsSilently clientOrderId (pages m.events) := by
  rintro ⟨last, rest, answers, _, ends, _⟩
  rw [searched.pages] at answers
  have same : earlier = last :: rest := List.map_injective_iff.2 (fun _ _ => Except.ok.inj) answers
  exact searched.goes last (same ▸ List.mem_cons_self) ends

theorem Searched.cons {payload : Json} {earlier : List Json} {m : BrokerMoment} {path : String}
    {params : Params} {after : Cache} (searched : Searched clientOrderId earlier m)
    (nothing : ∀ row ∈ rows payload "orders", ¬carries clientOrderId row) (goes : ¬Ends payload) :
    Searched clientOrderId (payload :: earlier)
      (m.push (S := venueEffects Cache Request) (.request (.get path params)) (.ok payload) after) where
  pages := congrArg (List.cons (Except.ok payload)) searched.pages
  nothing := List.forall_mem_cons.2 ⟨nothing, searched.nothing⟩
  goes := List.forall_mem_cons.2 ⟨goes, searched.goes⟩

theorem not_silent_of_error {error : VenueError} {answers : List (Except VenueError Json)} :
    ¬EndsSilently clientOrderId (.error error :: answers) := by
  rintro ⟨last, rest, whole, _⟩
  cases whole

theorem silent_cons_iff {payload : Json} {earlier : List Json} {m : BrokerMoment}
    (searched : Searched clientOrderId earlier m) :
    EndsSilently clientOrderId (.ok payload :: pages m.events) ↔
      (∀ row ∈ rows payload "orders", ¬carries clientOrderId row) ∧ Ends payload ∧
        ¬(payload.get "has_next").is true := by
  rw [searched.pages]
  constructor
  · rintro ⟨last, rest, whole, nothing, ends, flag⟩
    have same : payload = last := Except.ok.inj (List.cons.inj whole).1
    rw [same]
    exact ⟨nothing last List.mem_cons_self, ends, flag⟩
  · rintro ⟨nothing, ends, flag⟩
    refine ⟨payload, earlier, rfl, fun other member => ?_, ends, flag⟩
    rcases List.mem_cons.1 member with rfl | before
    · exact nothing
    · exact searched.nothing other before

theorem searchPages_none_iff (params : Params) (pagesLeft : Nat) (cursor : String) {earlier : List Json}
    {m : BrokerMoment} (searched : Searched clientOrderId earlier m) :
    wp brokerLogic
      (fun result m' => result = .ok none ↔ EndsSilently clientOrderId (pages m'.events))
      (searchPages params clientOrderId pagesLeft cursor) m := by
  induction pagesLeft generalizing cursor earlier m with
  | zero => exact iff_of_false (fun never => nomatch never) (not_silent_of_goes searched)
  | succ left ih =>
      refine wp_bind.2 (wp_served fun reply after _ _ => ?_)
      match reply with
      | .error error => exact iff_of_false (fun never => nomatch never) not_silent_of_error
      | .ok payload =>
          dsimp only [andThen]
          have silent : EndsSilently clientOrderId (.ok payload :: pages m.events) ↔
              (∀ row ∈ rows payload "orders", ¬carries clientOrderId row) ∧ Ends payload ∧
                ¬(payload.get "has_next").is true := silent_cons_iff searched
          cases found : (rows payload "orders").find? (carries clientOrderId) with
          | some row =>
              refine iff_of_false (fun never => nomatch never) fun quiet => ?_
              exact (silent.1 quiet).1 row (List.mem_of_find?_eq_some found) (List.find?_some found)
          | none =>
              have nothing : ∀ row ∈ rows payload "orders", ¬carries clientOrderId row :=
                List.find?_eq_none.1 found
              by_cases ends : Ends payload
              · refine wp_bind.2 ?_
                rw [nextCursor_ends ends]
                show wp _ _ (if payload.isMapping && (payload.get "has_next").is true then
                  raises _ else pure none) _
                by_cases more : (payload.get "has_next").is true
                · have mapping : payload.isMapping := by
                    by_contra other
                    rw [Json.get_of_not_mapping other] at more
                    cases more
                  rw [if_pos (by simp [mapping, more])]
                  exact iff_of_false (fun never => nomatch never) fun quiet => (silent.1 quiet).2.2 more
                · rw [if_neg (by simp [more])]
                  exact iff_of_true rfl (silent.2 ⟨nothing, ends, more⟩)
              · have loud : ¬EndsSilently clientOrderId (.ok payload :: pages m.events) :=
                  fun quiet => ends (silent.1 quiet).2.1
                rcases nextCursor_goes ends cursor with ⟨exc, refused⟩ | ⟨next, cursor', refused⟩
                · refine wp_bind.2 ?_
                  rw [refused]
                  exact iff_of_false (fun never => nomatch never) loud
                · refine wp_bind.2 ?_
                  rw [refused]
                  show wp _ _ (if next = "" then _ else searchPages params clientOrderId left next) _
                  rw [if_neg cursor']
                  exact ih next (searched.cons nothing ends)

theorem find_none_iff (lib : Library) {m : BrokerMoment} (fresh : pages m.events = []) :
    wp brokerLogic
      (fun result m' => result = .ok none ↔ EndsSilently clientOrderId (pages m'.events))
      (findByClientOrderId lib clientOrderId) m := by
  refine wp_bind.2 (wp_bind.2 (wp_attempt.2 (wp_served fun saved after _ _ => ?_)))
  have searched : ∀ cache, Searched clientOrderId []
      ((m.push (S := venueEffects Cache Request) (.savedOrder clientOrderId) saved after).push
        (S := venueEffects Cache Request) .load (.ok after) cache) :=
    fun cache => ⟨fresh, (fun _ never => nomatch never), fun _ never => nomatch never⟩
  cases saved with
  | error error =>
      refine wp_bind.2 (wp_served ?_)
      rintro _ cache ⟨rfl, _⟩ _
      exact searchPages_none_iff _ _ _ (searched cache)
  | ok order =>
      refine wp_bind.2 (wp_served ?_)
      rintro _ cache ⟨rfl, _⟩ _
      exact searchPages_none_iff _ _ _ (searched cache)

/-! ## What that `None` is worth -/

/-- Every page is a page of orders, and the flag of the last one plain. -/
def WellFormed (answers : List (Except VenueError Json)) : Prop :=
  (∀ payload, .ok payload ∈ answers → OrderPage payload) ∧
    ∀ payload, .ok payload ∈ answers.head? → PlainFlag payload

/-- The rows of a page of orders are the objects of its list. -/
theorem lists_iff {payload : Json} (wellFormed : OrderPage payload) :
    Lists clientOrderId payload ↔ ∃ row ∈ rows payload "orders", carries clientOrderId row := by
  obtain ⟨mapping, list⟩ := wellFormed
  obtain ⟨items, listed⟩ := Json.eq_list list
  have read : rows payload "orders" = items.filter Json.isMapping := by
    cases payload with
    | object members =>
        unfold rows
        rw [listed]
    | _ => cases mapping
  rw [read]
  constructor
  · rintro ⟨items', listed', row, member, object, here⟩
    rw [listed] at listed'
    cases listed'
    exact ⟨row, List.mem_filter.2 ⟨member, object⟩, here⟩
  · rintro ⟨row, member, here⟩
    obtain ⟨there, object⟩ := List.mem_filter.1 member
    exact ⟨items, listed, row, there, object, here⟩

theorem announces_iff {payload : Json} (ends : Ends payload) (flag : ¬(payload.get "has_next").is true) :
    ¬Announces payload ↔ PlainFlag payload := by
  constructor
  · intro quiet more
    exact absurd (.inl more) quiet
  · rintro plain (more | goes)
    · exact flag (plain more)
    · exact goes ends

theorem ruledOut_of_silent {answers : List (Except VenueError Json)}
    (silent : EndsSilently clientOrderId answers) :
    RuledOut clientOrderId answers ↔ WellFormed answers := by
  obtain ⟨last, earlier, rfl, nothing, ends, flag⟩ := silent
  constructor
  · rintro ⟨last', earlier', same, fine, quiet⟩
    have whole : last :: earlier = last' :: earlier' :=
      List.map_injective_iff.2 (fun _ _ => Except.ok.inj) same
    obtain ⟨rfl, rfl⟩ := List.cons.inj whole
    refine ⟨fun payload member => ?_, fun payload newest => ?_⟩
    · obtain ⟨other, there, here⟩ := List.mem_map.1 member
      cases here
      exact (fine payload there).1
    · cases newest
      exact (announces_iff ends flag).1 quiet
  · rintro ⟨fine, plain⟩
    have orderPage : ∀ payload ∈ last :: earlier, OrderPage payload := fun payload member =>
      fine payload (List.mem_map_of_mem member)
    refine ⟨last, earlier, rfl, fun payload member => ⟨orderPage payload member, ?_⟩,
      (announces_iff ends flag).2 (plain last rfl)⟩
    rw [lists_iff (orderPage payload member)]
    rintro ⟨row, there, here⟩
    exact nothing payload member row there here

end Search

/-- `None` from the search means what is said of it exactly when the pages did not end
silently, or were all pages of orders and the flag of the last one plain. -/
theorem ruledOut_iff {lib : Library} {clientOrderId : String} {cache : Cache} {final : BrokerMoment}
    {result : Except VenueError (Option Json)}
    (run : (findByClientOrderId lib clientOrderId).Runs BrokerServe ⟨cache, []⟩ result final) :
    (result = .ok none → RuledOut clientOrderId (pages final.events)) ↔
      ¬EndsSilently clientOrderId (pages final.events) ∨ WellFormed (pages final.events) := by
  have obligation : wp brokerLogic
      (fun result m => result = .ok none ↔ EndsSilently clientOrderId (pages m.events))
      (findByClientOrderId lib clientOrderId) ⟨cache, []⟩ := find_none_iff lib rfl
  have none := plain_run run (fun _ _ => trivial) obligation
  by_cases silent : EndsSilently clientOrderId (pages final.events)
  · rw [ruledOut_of_silent silent]
    simp [none.2 silent, silent]
  · exact iff_of_true (fun said => absurd (none.1 said) silent) (.inl silent)

def emptyCache : Cache := ⟨.empty, .empty, .empty⟩

/-- A search to which every answer is an empty body. -/
def blankSearch : Except VenueError (Option Json) × BrokerMoment :=
  (findByClientOrderId noDates "1").play (answering fun _ => .ok (.object [])) ⟨emptyCache, []⟩

theorem blankSearch_runs : (findByClientOrderId noDates "1").Runs BrokerServe ⟨emptyCache, []⟩
    blankSearch.1 blankSearch.2 := Prog.play_runs (answering_sound _) _ _

theorem ruledOut_iff_blankSearch :
    (blankSearch.1 = .ok none → RuledOut "1" (pages blankSearch.2.events)) ↔
      ¬EndsSilently "1" (pages blankSearch.2.events) ∨ WellFormed (pages blankSearch.2.events) :=
  ruledOut_iff blankSearch_runs

/-- An answer without a list of orders rules the order out. -/
theorem blank_rules_out : ∃ result final,
    (findByClientOrderId noDates "1").Runs BrokerServe ⟨emptyCache, []⟩ result final ∧
      result = .ok none ∧ ¬RuledOut "1" (pages final.events) := by
  have returned : blankSearch.1.toOption.map Option.isNone = some true := by decide +kernel
  have blank : ∀ reply ∈ pages blankSearch.2.events,
      reply.toOption.all (fun payload => !(payload.get "orders").isList) = true := by
    decide +kernel
  refine ⟨blankSearch.1, blankSearch.2, blankSearch_runs, ?_, ?_⟩
  · match whole : blankSearch.1 with
    | .error error => simp [whole, Except.toOption] at returned
    | .ok (some row) => simp [whole, Except.toOption] at returned
    | .ok none => rfl
  · rintro ⟨last, earlier, answers, fine, _⟩
    have first : Except.ok last ∈ pages blankSearch.2.events := answers ▸ List.mem_cons_self
    have other := blank _ first
    have list := (fine last List.mem_cons_self).1.2
    simp [Except.toOption, list] at other

/-! ## A list served in pages -/

/-- A page of a listing: its rows, and whether its answer carries the cursor of the next one. -/
structure Page where
  rows : List Json
  objects : ∀ row ∈ rows, row.isMapping
  named : Bool

/-- A fixed list in pages, and the cursors that name them. -/
structure Server where
  pages : List Page
  begins : pages ≠ []
  name : Nat → String
  visible : ∀ i, name i ≠ ""
  distinct : Function.Injective name

namespace Server

variable (server : Server)

/-- The whole list. -/
def rows : List Json := server.pages.flatMap Page.rows

/-- What asks for the page with so many before it. -/
def cursor : Nat → String
  | 0 => ""
  | i + 1 => server.name (i + 1)

/-- The answer with a page: its rows under the key, a truthful flag, and the cursor of the
next page, where there is one and the answer carries it. -/
structure Presents (key : String) (i : Nat) (page : Page) (payload : Json) : Prop where
  mapping : payload.isMapping
  rows : payload.get key = .list page.rows
  flag : payload.get "has_next" = .bool (i + 1 < server.pages.length)
  named : i + 1 < server.pages.length → page.named → payload.get "cursor" = .string (server.name (i + 1))
  unnamed : page.named = false → ¬(payload.get "cursor").truthy

/-- The cursor of a request. -/
def asked (params : Params) : String :=
  match params.find? fun p => p.1 = "cursor" with
  | some (_, value) => value.str
  | none => ""

/-- The server answers with the page that is asked for, or the request fails. -/
def Serves (key : String) (e : BrokerEvent) : Prop :=
  ∀ path params, ∀ reply : Except VenueError Json, ∀ before after,
    e = ⟨.request (.get path params), reply, before, after⟩ → ∀ payload, reply = .ok payload →
      ∃ i page, server.pages[i]? = some page ∧ asked params = server.cursor i ∧
        server.Presents key i page payload

end Server

/-- A request that failed. -/
def failed (e : BrokerEvent) : Prop := ∃ error, page e = some (.error error)

/-- Every page among the first so many that one with rows comes after has rows itself and
carries its cursor. -/
def LeadsOn (limit : Nat) (pages : List Page) : Prop :=
  ∀ before page after, pages = before ++ page :: after → before.length < limit →
    (∃ later ∈ after, later.rows ≠ []) → page.rows ≠ [] ∧ page.named

theorem leadsOn_zero (pages : List Page) : LeadsOn 0 pages :=
  fun _ _ _ _ never => absurd never (Nat.not_lt_zero _)

theorem leadsOn_cons {limit : Nat} {page : Page} {rest : List Page} :
    LeadsOn (limit + 1) (page :: rest) ↔
      ((∃ later ∈ rest, later.rows ≠ []) → page.rows ≠ [] ∧ page.named) ∧ LeadsOn limit rest := by
  constructor
  · intro leads
    refine ⟨leads [] page rest rfl (Nat.succ_pos limit), fun before here after split within later => ?_⟩
    exact leads (page :: before) here after (by rw [split]; rfl) (Nat.succ_lt_succ within) later
  · rintro ⟨first, leads⟩ before here after split within later
    cases before with
    | nil =>
        obtain ⟨rfl, rfl⟩ := List.cons.inj split
        exact first later
    | cons head before =>
        obtain ⟨rfl, rest'⟩ := List.cons.inj split
        exact leads before here after rest' (Nat.lt_of_succ_lt_succ within) later

theorem leadsOn_of_empty {limit : Nat} {pages : List Page} (empty : ∀ page ∈ pages, page.rows = []) :
    LeadsOn limit pages := by
  rintro before page after rfl _ ⟨later, member, rows⟩
  exact absurd (empty later (by simp [member])) rows

section Paginate

variable {server : Server} {key : String}

theorem asked_withCursor {base : Params} (plain : ∀ p ∈ base, p.1 ≠ "cursor") (cursor : String) :
    Server.asked (withCursor base cursor) = cursor := by
  have none : base.find? (fun p => p.1 = "cursor") = none := by
    refine List.find?_eq_none.2 fun p member => ?_
    simpa using plain p member
  unfold Server.asked withCursor
  by_cases first : cursor = ""
  · simp [first, none]
  · simp [first, List.find?_append, none, Json.str]

theorem cursor_injective (server : Server) : Function.Injective server.cursor := by
  intro i j same
  cases i with
  | zero =>
      cases j with
      | zero => rfl
      | succ j => exact absurd same.symm (server.visible _)
  | succ i =>
      cases j with
      | zero => exact absurd same (server.visible _)
      | succ j => exact server.distinct same

theorem rows_presented {i : Nat} {page : Page} {payload : Json}
    (presents : server.Presents key i page payload) : Coinbase.rows payload key = page.rows := by
  cases payload with
  | object members =>
      unfold Coinbase.rows
      rw [presents.rows]
      exact List.filter_eq_self.2 page.objects
  | _ => cases presents.mapping

/-- The cursor of a page that is shown: the next page's where there is one and it is named. -/
theorem nextCursor_presented {i : Nat} {page : Page} {payload : Json}
    (presents : server.Presents key i page payload) :
    nextCursor payload (server.cursor i) =
      .ok (if i + 1 < server.pages.length ∧ page.named then server.cursor (i + 1) else "") := by
  unfold nextCursor
  by_cases more : i + 1 < server.pages.length
  · have flag : (payload.get "has_next").is false = false := by simp [presents.flag, more, Json.is]
    by_cases named : page.named
    · have cursor : ((payload.get "cursor").or (.string "")).str = server.cursor (i + 1) := by
        simp [presents.named more named, Json.or, Json.truthy, server.visible, Json.str, Server.cursor]
      have other : server.cursor (i + 1) ≠ server.cursor i := fun same =>
        absurd (cursor_injective server same) (Nat.succ_ne_self i)
      simp [presents.mapping, flag, more, named, cursor, other]
    · have empty : ((payload.get "cursor").or (.string "")).str = "" := by
        simp [Json.or, presents.unnamed (by simpa using named), Json.str]
      simp [presents.mapping, flag, named, empty]
  · have flag : (payload.get "has_next").is false = true := by simp [presents.flag, more, Json.is]
    simp [flag, more]

/-- The whole list, or an exception. -/
def WholeOrRaised (server : Server) (result : Except VenueError (List Json)) : Prop :=
  result = .ok server.rows ∨ ∃ error, result = .error error

/-- The rows read so far are the whole list exactly when no page after them has any. -/
theorem whole_iff {before rest : List Page} {page : Page} (split : server.pages = before ++ page :: rest) :
    WholeOrRaised server (.ok (before.flatMap Page.rows ++ page.rows)) ↔
      ∀ later ∈ rest, later.rows = [] := by
  have rows : server.rows = before.flatMap Page.rows ++ page.rows ++ rest.flatMap Page.rows := by
    rw [Server.rows, split, List.flatMap_append, List.flatMap_cons, List.append_assoc]
  constructor
  · rintro (whole | ⟨_, never⟩)
    · have nothing : rest.flatMap Page.rows = [] := by
        have same := Except.ok.inj whole
        rw [rows] at same
        exact List.self_eq_append_right.1 same
      exact List.flatMap_eq_nil_iff.1 nothing
    · cases never
  · intro nothing
    left
    rw [rows, List.flatMap_eq_nil_iff.2 nothing, List.append_nil]

/-- Where a page stops the listing, it must be the last one with rows. -/
theorem leadsOn_of_stop {left : Nat} {page : Page} {rest : List Page}
    (stops : rest = [] ∨ page.rows = [] ∨ page.named = false) :
    LeadsOn (left + 1) (page :: rest) ↔ ∀ later ∈ rest, later.rows = [] := by
  rw [leadsOn_cons]
  constructor
  · rintro ⟨first, _⟩
    by_contra some
    obtain ⟨later, member, rows⟩ : ∃ later ∈ rest, later.rows ≠ [] := by
      simpa only [not_forall, exists_prop] using some
    obtain ⟨here, named⟩ := first ⟨later, member, rows⟩
    rcases stops with rfl | empty | unnamed
    · cases member
    · exact here empty
    · rw [unnamed] at named
      cases named
  · intro nothing
    refine ⟨?_, leadsOn_of_empty nothing⟩
    rintro ⟨later, member, rows⟩
    exact absurd (nothing later member) rows

theorem listPages_iff (path : String) {base : Params} (plain : ∀ p ∈ base, p.1 ≠ "cursor")
    (limit left : Nat) {before rest : List Page} {page : Page}
    (split : server.pages = before ++ page :: rest) {m : BrokerMoment}
    (quiet : ∀ e ∈ m.events, ¬failed e) :
    wp (Contract.plain BrokerServe (server.Serves key)).logic
      (fun result m' => WholeOrRaised server result ↔
        (∃ e ∈ m'.events, failed e) ∨ LeadsOn left (page :: rest))
      (listPages path key base limit left (server.cursor before.length) (before.flatMap Page.rows)) m := by
  induction left generalizing before rest page m with
  | zero => exact iff_of_true (.inr ⟨_, rfl⟩) (.inr (leadsOn_zero _))
  | succ left ih =>
      refine wp_bind.2 (wp_served fun reply after _ serves => ?_)
      match reply with
      | .error error =>
          exact iff_of_true (.inr ⟨error, rfl⟩) (.inl ⟨_, List.mem_cons_self, error, rfl⟩)
      | .ok payload =>
          obtain ⟨i, shown, there, asked, presents⟩ := serves _ _ _ _ _ rfl payload rfl
          rw [asked_withCursor plain] at asked
          obtain rfl : before.length = i := cursor_injective server asked
          obtain rfl : page = shown := by simpa [split] using there
          have calm : ∀ e ∈ (m.push (S := venueEffects Cache Request)
              (.request (.get path (withCursor base (server.cursor before.length)))) (.ok payload)
                after).events, ¬failed e := by
            rintro e member ⟨error, answer⟩
            rcases List.mem_cons.1 member with rfl | older
            · cases answer
            · exact quiet e older ⟨error, answer⟩
          -- The listing ends with this page.
          have stop : (rest = [] ∨ page.rows = [] ∨ page.named = false) →
              (WholeOrRaised server (.ok (before.flatMap Page.rows ++ page.rows)) ↔
                (∃ e ∈ (m.push (S := venueEffects Cache Request)
                  (.request (.get path (withCursor base (server.cursor before.length)))) (.ok payload)
                    after).events, failed e) ∨ LeadsOn (left + 1) (page :: rest)) := by
            intro stops
            rw [whole_iff split, leadsOn_of_stop stops]
            exact ⟨.inr, fun either => either.resolve_left fun ⟨e, member, bad⟩ => calm e member bad⟩
          have length : server.pages.length = before.length + (rest.length + 1) := by
            rw [split, List.length_append, List.length_cons]
          show wp _ _ (if rows payload key = [] then _ else _) _
          rw [rows_presented presents]
          by_cases empty : page.rows = []
          · rw [if_pos empty]
            exact stop (.inr (.inl empty))
          rw [if_neg empty, nextCursor_presented presents]
          refine wp_bind.2 ?_
          by_cases goes : before.length + 1 < server.pages.length ∧ page.named
          · rw [if_pos goes]
            show wp _ _ (if server.cursor (before.length + 1) = "" then _ else
              listPages path key base limit left (server.cursor (before.length + 1)) _) _
            rw [if_neg (show server.cursor (before.length + 1) ≠ "" from server.visible _)]
            match rest with
            | [] => exact absurd goes.1 (by simp [length])
            | next :: others =>
                have onward : LeadsOn (left + 1) (page :: next :: others) ↔ LeadsOn left (next :: others) := by
                  rw [leadsOn_cons]
                  exact ⟨And.right, fun leads => ⟨fun _ => ⟨empty, goes.2⟩, leads⟩⟩
                have here : server.pages = (before ++ [page]) ++ next :: others := by
                  rw [split, List.append_assoc]
                  rfl
                have step := ih here calm
                rw [List.length_append, List.flatMap_append, List.flatMap_singleton] at step
                rw [onward]
                exact step
          · rw [if_neg goes]
            refine stop ?_
            by_cases named : page.named
            · left
              have last : rest.length = 0 := by
                have short : ¬before.length + 1 < server.pages.length := fun more => goes ⟨more, named⟩
                omega
              exact List.length_eq_zero_iff.1 last
            · exact .inr (.inr (by simpa using named))

theorem paginate_reads (path : String) {params : Params} (plain : ∀ p ∈ params, p.1 ≠ "cursor")
    (limit : Nat) {m : BrokerMoment} (quiet : ∀ e ∈ m.events, ¬failed e) :
    wp (Contract.plain BrokerServe (server.Serves key)).logic
      (fun result m' => WholeOrRaised server result ↔
        (∃ e ∈ m'.events, failed e) ∨ LeadsOn limit server.pages)
      (paginate path key params limit) m := by
  have base : ∀ p ∈ params ++ [("limit", Json.int pageLimit)], p.1 ≠ "cursor" := by
    intro p member
    rcases List.mem_append.1 member with given | size
    · exact plain p given
    · rw [List.mem_singleton.1 size]
      decide
  obtain ⟨page, rest, split⟩ := List.exists_cons_of_ne_nil server.begins
  have first : server.pages = [] ++ page :: rest := split
  rw [split]
  exact listPages_iff path base limit limit first quiet

end Paginate

/-- A listing is read whole, or raises, exactly when a request failed or every page within the
budget that one with rows comes after has rows itself and carries its cursor. -/
theorem paginate_iff {server : Server} {path key : String} {params : Params}
    (plain : ∀ p ∈ params, p.1 ≠ "cursor") {limit : Nat} {cache : Cache} {final : BrokerMoment}
    {result : Except VenueError (List Json)}
    (run : (paginate path key params limit).Runs BrokerServe ⟨cache, []⟩ result final)
    (serves : ∀ e ∈ final.events, server.Serves key e) :
    (result = .ok server.rows ∨ ∃ error, result = .error error) ↔
      (∃ e ∈ final.events, failed e) ∨
      ∀ before page after, server.pages = before ++ page :: after → before.length < limit →
        (∃ later ∈ after, later.rows ≠ []) → page.rows ≠ [] ∧ page.named := by
  have obligation : wp (Contract.plain BrokerServe (server.Serves key)).logic
      (fun result m => WholeOrRaised server result ↔
        (∃ e ∈ m.events, failed e) ∨ LeadsOn limit server.pages)
      (paginate path key params limit) ⟨cache, []⟩ :=
    paginate_reads path plain limit fun _ never => nomatch never
  exact plain_run run serves obligation

/-- Two accounts on two pages, the answer with the first one without a cursor. -/
def twoPages : Server where
  pages :=
    [⟨[.object [("currency", .string "BTC")]], by simp [Json.isMapping], false⟩,
      ⟨[.object [("currency", .string "USD")]], by simp [Json.isMapping], false⟩]
  begins := List.cons_ne_nil _ _
  name i := String.ofList (List.replicate (i + 1) 'c')
  visible i empty := by simpa using congrArg String.toList empty
  distinct i j same := by simpa using congrArg (fun s => s.toList.length) same

/-- The first page on the first request, and no other that is asked for. -/
def withoutCursor : Request → Except VenueError Json
  | .get _ params =>
      if Server.asked params = "" then
        .ok (.object [("accounts", .list [.object [("currency", .string "BTC")]]), ("has_next", .bool true)])
      else .error { exc := .other "ProviderError" "provider transport failed" }
  | _ => .error { exc := .other "ProviderError" "provider transport failed" }

theorem withoutCursor_serves (path : String) {params : Params} {payload : Json}
    (answered : withoutCursor (.get path params) = .ok payload) :
    ∃ i page, twoPages.pages[i]? = some page ∧ Server.asked params = twoPages.cursor i ∧
      twoPages.Presents "accounts" i page payload := by
  simp only [withoutCursor] at answered
  by_cases first : Server.asked params = ""
  · rw [if_pos first] at answered
    cases answered
    exact ⟨0, _, rfl, first, rfl, rfl, rfl, (fun _ named => nomatch named), fun _ => by decide⟩
  · rw [if_neg first] at answered
    cases answered

/-- The accounts as they are listed then. -/
def cutShort : Except VenueError (List Json) × BrokerMoment :=
  (paginate "/accounts" "accounts" [] maxAccountPages).play (answering withoutCursor) ⟨emptyCache, []⟩

theorem cutShort_runs : (paginate "/accounts" "accounts" [] maxAccountPages).Runs BrokerServe
    ⟨emptyCache, []⟩ cutShort.1 cutShort.2 := Prog.play_runs (answering_sound _) _ _

theorem cutShort_serves : ∀ e ∈ cutShort.2.events, twoPages.Serves "accounts" e := by
  refine forall_of_along (Prog.play_along (fun op m => ?_) _ trivial)
  intro path params reply before after same payload answered
  cases op with
  | request request =>
      cases same
      exact withoutCursor_serves path answered
  | _ => cases same

theorem noParams : ∀ p ∈ ([] : Params), p.1 ≠ "cursor" := fun _ never => nomatch never

theorem paginate_iff_cutShort :
    (cutShort.1 = .ok twoPages.rows ∨ ∃ error, cutShort.1 = .error error) ↔
      (∃ e ∈ cutShort.2.events, failed e) ∨
      ∀ before page after, twoPages.pages = before ++ page :: after → before.length < maxAccountPages →
        (∃ later ∈ after, later.rows ≠ []) → page.rows ≠ [] ∧ page.named :=
  paginate_iff noParams cutShort_runs cutShort_serves

/-- One of two accounts is read, and nothing is raised. -/
theorem second_page_unread : ∃ result final,
    (paginate "/accounts" "accounts" [] maxAccountPages).Runs BrokerServe ⟨emptyCache, []⟩ result final ∧
      (∀ e ∈ final.events, twoPages.Serves "accounts" e) ∧
      ∃ read, result = .ok read ∧ read.length = 1 ∧ twoPages.rows.length = 2 := by
  have one : cutShort.1.toOption.map List.length = some 1 := by decide +kernel
  refine ⟨cutShort.1, cutShort.2, cutShort_runs, cutShort_serves, ?_⟩
  match whole : cutShort.1 with
  | .error error => simp [whole, Except.toOption] at one
  | .ok read => exact ⟨read, rfl, by simpa [whole, Except.toOption] using one, rfl⟩

end AlgoTrader.Brokers.Coinbase
