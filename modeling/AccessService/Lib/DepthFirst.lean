/-
  AccessService.Lib.DepthFirst

  Depth-first search for a cycle, with the set of the nodes seen, the set of the nodes on
  the recursion stack and the path to the current node.

  A node that has been seen and is not on the path is done: what it leads to is done as
  well, and it lies on no cycle.  The search stops at the first edge back to the path.
-/

import Mathlib.Data.List.Chain
import Mathlib.Data.List.Nodup
import Mathlib.Logic.Relation

namespace AccessService.Lib.DepthFirst

-- ============================================================================
-- Cycles
-- ============================================================================

def Edge {V : Type} (next : V → List V) (v w : V) : Prop := w ∈ next v

/-- A walk along edges that ends where it starts. -/
structure IsCycle {V : Type} (next : V → List V) (path : List V) : Prop where
  walk : path.IsChain (Edge next)
  long : 2 ≤ path.length
  closed : path.head? = path.getLast?

variable {V : Type} {next : V → List V} {v : V}

theorem transGen_of_isChain {path : List V} {w u : V} (hwalk : (v :: w :: path).IsChain (Edge next))
    (hlast : (w :: path).getLast? = some u) : Relation.TransGen (Edge next) v u := by
  induction path generalizing v w with
  | nil =>
    obtain rfl : w = u := Option.some.inj hlast
    exact .single (List.isChain_pair.mp hwalk)
  | cons x path ih =>
    have hstep : Edge next v w := hwalk.rel_head? rfl
    exact .head hstep (ih hwalk.tail (by rwa [List.getLast?_cons_cons] at hlast))

theorem IsCycle.transGen {path : List V} (h : IsCycle next path) :
    ∃ v, Relation.TransGen (Edge next) v v := by
  match path, h.long with
  | v :: w :: rest, _ =>
    have hlast : (w :: rest).getLast? = some v := by
      rw [← List.getLast?_cons_cons (a := v), ← h.closed]
      rfl
    exact ⟨v, transGen_of_isChain h.walk hlast⟩

-- ============================================================================
-- The search
-- ============================================================================

structure Search (V : Type) where
  visited : List V
  recursionStack : List V
  currentPath : List V
  deriving DecidableEq

inductive Stop (V : Type) where
  | outOfFuel
  | cycle (path : List V)
  deriving DecidableEq

abbrev Visit (V : Type) : Type := V → Search V → Except (Stop V) (Search V)

def Search.empty : Search V := ⟨[], [], []⟩

variable [DecidableEq V]

def enter (v : V) (s : Search V) : Search V where
  visited := s.visited.insert v
  recursionStack := s.recursionStack.insert v
  currentPath := s.currentPath ++ [v]

def leave (v : V) (s : Search V) : Search V where
  visited := s.visited
  recursionStack := s.recursionStack.filter (· ≠ v)
  currentPath := s.currentPath.dropLast

/-- The path from the node on, closed with the node. -/
def cycleAt (v : V) (s : Search V) : List V := s.currentPath.drop (s.currentPath.idxOf v) ++ [v]

/-- What is done about a node that has been seen: nothing, or an edge back is an error. -/
def skip (_ : V) (_ : Search V) : Except (Stop V) Unit := .ok ()

def backEdge (v : V) (s : Search V) : Except (Stop V) Unit :=
  if v ∈ s.recursionStack then .error (.cycle (cycleAt v s)) else .ok ()

def scan (onSeen : V → Search V → Except (Stop V) Unit) (visit : Visit V) :
    List V → Search V → Except (Stop V) (Search V)
  | [], s => .ok s
  | v :: vs, s =>
    if v ∉ s.visited then visit v s >>= scan onSeen visit vs
    else onSeen v s >>= fun _ => scan onSeen visit vs s

def dfs (next : V → List V) : Nat → Visit V
  | 0, _, _ => .error .outOfFuel
  | fuel + 1, v, s => (scan backEdge (dfs next fuel) (next v) (enter v s)).map (leave v)

def search (next : V → List V) (fuel : Nat) (roots : List V) : Except (Stop V) (Search V) :=
  scan skip (dfs next fuel) roots .empty

-- ============================================================================
-- The invariant
-- ============================================================================

variable {s s' : Search V} {vs nodes : List V} {fuel : Nat}

structure Inv (next : V → List V) (s : Search V) : Prop where
  onStack : ∀ v, v ∈ s.recursionStack ↔ v ∈ s.currentPath
  nodup : s.currentPath.Nodup
  walk : s.currentPath.IsChain (Edge next)
  seen : s.currentPath ⊆ s.visited
  /-- What is done leads to what is done. -/
  done : ∀ v ∈ s.visited, v ∉ s.currentPath → ∀ w, Edge next v w →
    w ∈ s.visited ∧ w ∉ s.currentPath
  acyclic : ∀ v ∈ s.visited, v ∉ s.currentPath → ¬Relation.TransGen (Edge next) v v

/-- The node can be entered next: an edge leads there from the end of the path. -/
def MayFollow (next : V → List V) (s : Search V) (v : V) : Prop :=
  ∀ u ∈ s.currentPath.getLast?, Edge next u v

omit [DecidableEq V] in
theorem inv_empty : Inv next Search.empty where
  onStack _ := Iff.rfl
  nodup := List.nodup_nil
  walk := List.isChain_nil
  seen := List.Subset.refl _
  done _ hv := absurd hv List.not_mem_nil
  acyclic _ hv := absurd hv List.not_mem_nil

omit [DecidableEq V] in
theorem Inv.done_transGen {w : V} (h : Inv next s) (hv : v ∈ s.visited) (hpath : v ∉ s.currentPath)
    (hreach : Relation.TransGen (Edge next) v w) : w ∈ s.visited ∧ w ∉ s.currentPath := by
  induction hreach with
  | single hstep => exact h.done _ hv hpath _ hstep
  | tail _ hstep ih => exact h.done _ ih.1 ih.2 _ hstep

theorem Inv.enter (h : Inv next s) (hv : v ∉ s.visited) (hfollow : MayFollow next s v) :
    Inv next (enter v s) := by
  have hold : ∀ x ∈ (DepthFirst.enter v s).visited, x ∉ (DepthFirst.enter v s).currentPath →
      x ∈ s.visited ∧ x ∉ s.currentPath := by
    intro x hx hpath
    simp only [DepthFirst.enter, List.mem_insert_iff, List.mem_append, List.mem_singleton,
      not_or] at hx hpath
    exact ⟨hx.resolve_left hpath.2, hpath.1⟩
  refine ⟨fun x => ?_, ?_, ?_, ?_, fun x hx hpath w hstep => ?_, fun x hx hpath => ?_⟩
  · simp only [DepthFirst.enter, List.mem_insert_iff, List.mem_append, List.mem_singleton,
      h.onStack x, or_comm]
  · exact List.nodup_append'.mpr ⟨h.nodup, List.nodup_singleton v,
      List.disjoint_singleton.mpr fun hmem => hv (h.seen hmem)⟩
  · refine h.walk.append (List.isChain_singleton v) fun u hu w hw => ?_
    obtain rfl : v = w := Option.some.inj hw
    exact hfollow u hu
  · refine List.append_subset.mpr ⟨fun x hx => List.mem_insert_of_mem (h.seen hx), ?_⟩
    exact List.cons_subset.mpr ⟨List.mem_insert_self, List.nil_subset _⟩
  · obtain ⟨hvisited, hnot⟩ := hold x hx hpath
    obtain ⟨hw, hwpath⟩ := h.done x hvisited hnot w hstep
    refine ⟨List.mem_insert_of_mem hw, fun hmem => ?_⟩
    rcases List.mem_append.mp hmem with hmem | hmem
    · exact hwpath hmem
    · exact hv (List.mem_singleton.mp hmem ▸ hw)
  · obtain ⟨hvisited, hnot⟩ := hold x hx hpath
    exact h.acyclic x hvisited hnot

/-- A node is left when all that follows it is done. -/
theorem Inv.leave (h : Inv next s) (hv : v ∉ s.visited) (h' : Inv next s')
    (hpath : s'.currentPath = s.currentPath ++ [v]) (hgrown : s.visited ⊆ s'.visited)
    (hnext : ∀ w ∈ next v, w ∈ s'.visited ∧ w ∉ s'.currentPath) : Inv next (leave v s') := by
  have hdrop : (DepthFirst.leave v s').currentPath = s.currentPath := by
    rw [DepthFirst.leave, hpath, List.dropLast_concat]
  have hnot : v ∉ s.currentPath := fun hmem => hv (h.seen hmem)
  have hsplit : ∀ x ∉ (DepthFirst.leave v s').currentPath, x = v ∨ x ∉ s'.currentPath := by
    intro x hx
    rw [hdrop] at hx
    rw [hpath, List.mem_append, List.mem_singleton]
    tauto
  refine ⟨fun x => ?_, ?_, ?_, ?_, fun x hx hxpath w hstep => ?_, fun x hx hxpath => ?_⟩
  · rw [hdrop]
    simp only [DepthFirst.leave, List.mem_filter, h'.onStack x, hpath, List.mem_append,
      List.mem_singleton, decide_eq_true_eq]
    constructor
    · rintro ⟨hmem | rfl, hne⟩
      · exact hmem
      · exact absurd rfl hne
    · intro hmem
      exact ⟨.inl hmem, fun heq => hnot (heq ▸ hmem)⟩
  · rw [hdrop]
    exact h.nodup
  · rw [hdrop]
    exact h.walk
  · rw [hdrop]
    exact List.Subset.trans h.seen hgrown
  · have hw : w ∈ s'.visited ∧ w ∉ s'.currentPath := by
      rcases hsplit x hxpath with rfl | hxpath
      · exact hnext w hstep
      · exact h'.done x hx hxpath w hstep
    rw [hdrop]
    refine ⟨hw.1, fun hmem => hw.2 ?_⟩
    rw [hpath]
    exact List.mem_append_left _ hmem
  · rcases hsplit x hxpath with rfl | hxpath
    · -- what `v` leads to is done by now, and `v` itself is not
      intro hcycle
      have hon : x ∈ s'.currentPath := by rw [hpath]; exact List.mem_append_right _ (.head _)
      obtain ⟨w, hstep, hback⟩ := Relation.TransGen.head'_iff.mp hcycle
      obtain ⟨hw, hwpath⟩ := hnext w hstep
      rcases Relation.reflTransGen_iff_eq_or_transGen.mp hback with rfl | hback
      · exact hwpath hon
      · exact (h'.done_transGen hw hwpath hback).2 hon
    · exact h'.acyclic x hx hxpath

theorem Inv.cycleAt (h : Inv next s) (hv : v ∈ s.currentPath) (hfollow : MayFollow next s v) :
    IsCycle next (cycleAt v s) := by
  have hlt : s.currentPath.idxOf v < s.currentPath.length := List.idxOf_lt_length_iff.mpr hv
  have hdrop : s.currentPath.drop (s.currentPath.idxOf v) =
      v :: s.currentPath.drop (s.currentPath.idxOf v + 1) := by
    rw [List.drop_eq_getElem_cons hlt, List.getElem_idxOf hlt]
  refine ⟨(h.walk.drop _).append (List.isChain_singleton v) fun u hu w hw => ?_, ?_, ?_⟩
  · obtain rfl : v = w := Option.some.inj hw
    rw [List.getLast?_drop, if_neg (Nat.not_le.mpr hlt)] at hu
    exact hfollow u hu
  · rw [DepthFirst.cycleAt, hdrop, List.length_append, List.length_cons, List.length_singleton]
    omega
  · rw [DepthFirst.cycleAt, hdrop, List.getLast?_concat]
    rfl

-- ============================================================================
-- How a search ends
-- ============================================================================

/-- The nodes that are still to be seen. -/
def unseen (nodes : List V) (s : Search V) : List V := nodes.filter (· ∉ s.visited)

/-- What a search may end with that starts at `s`: back on the same path with all of `vs`
    done, or at a cycle, or without fuel because too much was unseen. -/
def Ends (next : V → List V) (nodes : List V) (fuel : Nat) (vs : List V) (s : Search V) :
    Except (Stop V) (Search V) → Prop
  | .ok s' => Inv next s' ∧ s'.currentPath = s.currentPath ∧ s.visited ⊆ s'.visited ∧
      ∀ v ∈ vs, v ∈ s'.visited ∧ v ∉ s'.currentPath
  | .error (.cycle path) => IsCycle next path
  | .error .outOfFuel => fuel < (unseen nodes s).length

/-- The visits of a search, as far as the fuel goes. -/
def Visits (next : V → List V) (nodes : List V) (fuel : Nat) (visit : Visit V) : Prop :=
  ∀ v ∈ nodes, ∀ s, Inv next s → v ∉ s.visited → MayFollow next s v →
    Ends next nodes fuel [v] s (visit v s)

theorem length_unseen_le (h : s.visited ⊆ s'.visited) :
    (unseen nodes s').length ≤ (unseen nodes s).length := by
  refine (List.monotone_filter_right nodes fun v hv => ?_).length_le
  simp only [decide_eq_true_eq] at hv ⊢
  exact fun hmem => hv (h hmem)

theorem length_unseen_enter (hmem : v ∈ nodes) (hv : v ∉ s.visited) :
    (unseen nodes (enter v s)).length < (unseen nodes s).length := by
  have hsub : (unseen nodes (enter v s)).Sublist (unseen nodes s) := by
    refine List.monotone_filter_right nodes fun x hx => ?_
    simp only [decide_eq_true_eq] at hx ⊢
    exact fun hmem => hx (List.mem_insert_of_mem hmem)
  refine Nat.lt_of_le_of_ne hsub.length_le fun hlength => ?_
  have hin : v ∈ unseen nodes s := List.mem_filter.mpr ⟨hmem, decide_eq_true hv⟩
  rw [← hsub.eq_of_length hlength] at hin
  exact of_decide_eq_true (List.mem_filter.mp hin).2 List.mem_insert_self

/-- The scan of a list, given what is done about nodes that have been seen. -/
theorem scan_ends (onSeen : V → Search V → Except (Stop V) Unit) {visit : Visit V}
    (hvisit : Visits next nodes fuel visit) (hnodes : vs ⊆ nodes) (h : Inv next s)
    (hfollow : ∀ v ∈ vs, MayFollow next s v)
    (hseen : ∀ v ∈ vs, ∀ s', Inv next s' → s'.currentPath = s.currentPath →
      (onSeen v s' = .ok () ∧ v ∉ s'.currentPath) ∨
        ∃ path, onSeen v s' = .error (.cycle path) ∧ IsCycle next path) :
    Ends next nodes fuel vs s (scan onSeen visit vs s) := by
  induction vs generalizing s with
  | nil => exact ⟨h, rfl, List.Subset.refl _, fun _ hv => absurd hv List.not_mem_nil⟩
  | cons v vs ih =>
    have hrest : ∀ {s₁ : Search V}, Inv next s₁ → s₁.currentPath = s.currentPath →
        s.visited ⊆ s₁.visited → v ∈ s₁.visited → v ∉ s₁.currentPath →
        Ends next nodes fuel (v :: vs) s (scan onSeen visit vs s₁) := by
      intro s₁ h₁ hpath hgrown hv hvpath
      have hends := ih (List.subset_of_cons_subset hnodes) h₁
        (fun w hw u hu => hfollow w (List.mem_cons_of_mem _ hw) u (hpath ▸ hu))
        fun w hw s' h' hpath' => hseen w (List.mem_cons_of_mem _ hw) s' h' (hpath'.trans hpath)
      revert hends
      rcases scan onSeen visit vs s₁ with (_ | path) | s₂
      · exact fun hfuel => Nat.lt_of_lt_of_le hfuel (length_unseen_le hgrown)
      · exact id
      · rintro ⟨h₂, hpath₂, hgrown₂, hdone⟩
        refine ⟨h₂, hpath₂.trans hpath, List.Subset.trans hgrown hgrown₂, fun w hw => ?_⟩
        rcases List.mem_cons.mp hw with rfl | hw
        · exact ⟨hgrown₂ hv, hpath₂ ▸ hvpath⟩
        · exact hdone w hw
    rw [scan]
    split
    next hv =>
      have hends := hvisit v (hnodes List.mem_cons_self) s h hv (hfollow v List.mem_cons_self)
      revert hends
      rcases visit v s with (_ | path) | s₁
      · exact id
      · exact id
      · rintro ⟨h₁, hpath, hgrown, hdone⟩
        obtain ⟨hv₁, hvpath⟩ := hdone v List.mem_cons_self
        exact hrest h₁ hpath hgrown hv₁ hvpath
    next hv =>
      rcases hseen v List.mem_cons_self s h rfl with ⟨hok, hvpath⟩ | ⟨path, herror, hcycle⟩
      · rw [hok]
        exact hrest h rfl (List.Subset.refl _) (not_not.mp hv) hvpath
      · rw [herror]
        exact hcycle

/-- A visit with its fuel, by induction on the fuel. -/
theorem dfs_visits (hclosed : ∀ v ∈ nodes, next v ⊆ nodes) (fuel : Nat) :
    Visits next nodes fuel (dfs next fuel) := by
  induction fuel with
  | zero =>
    intro v hmem s _ hv _
    exact List.length_pos_of_mem (List.mem_filter.mpr ⟨hmem, decide_eq_true hv⟩)
  | succ fuel ih =>
    intro v hmem s h hv hfollow
    have hent := h.enter hv hfollow
    have hlast : ∀ w ∈ next v, ∀ s' : Search V, s'.currentPath = (enter v s).currentPath →
        MayFollow next s' w := by
      intro w hw s' hpath u hu
      rw [hpath, enter, List.getLast?_concat] at hu
      exact Option.some.inj hu ▸ hw
    have hends := scan_ends backEdge ih (hclosed v hmem) hent
      (fun w hw => hlast w hw _ rfl) fun w hw s' h' hpath => by
        unfold backEdge
        split
        next hstack =>
          exact .inr ⟨_, rfl, h'.cycleAt ((h'.onStack w).mp hstack) (hlast w hw s' hpath)⟩
        next hstack => exact .inl ⟨rfl, fun hon => hstack ((h'.onStack w).mpr hon)⟩
    rw [dfs]
    revert hends
    rcases scan backEdge (dfs next fuel) (next v) (enter v s) with (_ | path) | s₁
    · exact fun hfuel => Nat.lt_of_lt_of_le (Nat.succ_lt_succ hfuel) (length_unseen_enter hmem hv)
    · exact id
    · rintro ⟨h₁, hpath, hgrown, hdone⟩
      have hgrown' : s.visited ⊆ s₁.visited := fun x hx => hgrown (List.mem_insert_of_mem hx)
      have hdrop : (leave v s₁).currentPath = s.currentPath := by
        rw [leave, hpath, enter, List.dropLast_concat]
      refine ⟨h.leave hv h₁ hpath hgrown' hdone, hdrop, hgrown', fun w hw => ?_⟩
      rw [List.mem_singleton.mp hw]
      exact ⟨hgrown List.mem_insert_self, fun hon => hv (h.seen (hdrop ▸ hon))⟩

/-- With fuel for every node, the search ends: without an error where no node lies on a
    cycle, and else with a cycle. -/
theorem search_ends (hclosed : ∀ v ∈ nodes, next v ⊆ nodes) (hfuel : nodes.length ≤ fuel) :
    (∃ s, search next fuel nodes = .ok s ∧
        ∀ v ∈ nodes, ¬Relation.TransGen (Edge next) v v) ∨
      ∃ path, search next fuel nodes = .error (.cycle path) ∧ IsCycle next path := by
  have hends := scan_ends skip (dfs_visits hclosed fuel) (List.Subset.refl nodes)
    inv_empty (fun v _ u hu => by cases hu)
    fun v _ s _ hpath => .inl ⟨rfl, by rw [hpath]; exact List.not_mem_nil⟩
  unfold search
  revert hends
  rcases scan skip (dfs next fuel) nodes .empty with (_ | path) | s
  · intro hout
    have hle : (unseen nodes .empty).length ≤ nodes.length := List.length_filter_le _ _
    exact absurd (Nat.lt_of_lt_of_le hout hle) (Nat.not_lt.mpr hfuel)
  · exact fun hcycle => .inr ⟨path, rfl, hcycle⟩
  · rintro ⟨h, -, -, hdone⟩
    exact .inl ⟨s, rfl, fun v hv => h.acyclic v (hdone v hv).1 (hdone v hv).2⟩

-- ============================================================================
-- More fuel
-- ============================================================================

/-- One more unit of fuel changes nothing where the fuel was enough. -/
def Agrees (visit visit' : Visit V) : Prop :=
  ∀ v s, visit v s ≠ .error .outOfFuel → visit' v s = visit v s

theorem scan_agrees {onSeen : V → Search V → Except (Stop V) Unit} {visit visit' : Visit V}
    (h : Agrees visit visit') (hscan : scan onSeen visit vs s ≠ .error .outOfFuel) :
    scan onSeen visit' vs s = scan onSeen visit vs s := by
  induction vs generalizing s with
  | nil => rfl
  | cons v vs ih =>
    rw [scan] at hscan ⊢
    rw [scan]
    split
    next hv =>
      rw [if_pos hv] at hscan
      have hvisit : visit v s ≠ .error .outOfFuel := fun hout => by
        rw [hout] at hscan
        exact hscan rfl
      rw [h v s hvisit]
      rcases hrun : visit v s with e | s₁
      · rfl
      · rw [hrun] at hscan
        exact ih hscan
    next hv =>
      rw [if_neg hv] at hscan
      rcases hrun : onSeen v s with e | _
      · rfl
      · rw [hrun] at hscan
        exact ih hscan

theorem dfs_agrees (next : V → List V) (fuel : Nat) :
    Agrees (dfs next fuel) (dfs next (fuel + 1)) := by
  induction fuel with
  | zero => exact fun v s h => absurd rfl h
  | succ fuel ih =>
    intro v s h
    have hscan : scan backEdge (dfs next fuel) (next v) (enter v s) ≠ .error .outOfFuel :=
      fun hout => h (by rw [dfs, hout]; rfl)
    rw [dfs, scan_agrees ih hscan, ← dfs]

theorem search_fuel {fuel' : Nat} {roots : List V} (hle : fuel ≤ fuel')
    (h : search next fuel roots ≠ .error .outOfFuel) :
    search next fuel' roots = search next fuel roots := by
  induction hle with
  | refl => rfl
  | step _ ih => exact (scan_agrees (dfs_agrees next _) (by rw [← search, ih]; exact h)).trans ih

end AccessService.Lib.DepthFirst
