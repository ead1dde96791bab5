import Polystore.Proofs.Cluster.Contents

/-!
# Clusters of connection specifications

Whatever the numbers of replicas, a specification makes one segment for each of its
descriptors, and the node of the segment is the one at the address.
-/

namespace Polystore.Cluster

open Connection

variable {hasFile : String → Bool}

theorem eq_address_of_connector {descriptor : Descriptor} {number : Nat} {name : String}
    (connected : connector hasFile descriptor number = .ok name) : name = descriptor.address := by
  rw [connector] at connected
  dsimp only at connected
  split at connected
  · split at connected
    · exact (Except.ok.inj connected).symm
    · contradiction
  · exact (Except.ok.inj connected).symm

theorem eq_address_of_connectFrom {descriptor : Descriptor} {count first : Nat}
    {names : List String}
    (connected : Pool.connectFrom (connector hasFile) descriptor count first = .ok names) :
    ∀ name ∈ names, name = descriptor.address := by
  induction count generalizing first names with
  | zero =>
      cases connected
      intro name member
      contradiction
  | succ count ih =>
      rw [Pool.connectFrom] at connected
      split at connected
      · contradiction
      · next here =>
        split at connected
        · contradiction
        · next later =>
          cases connected
          intro name member
          rcases List.mem_cons.mp member with rfl | member
          · exact eq_address_of_connector here
          · exact ih later name member

/-- Every connection of a segment is to the address of its descriptor. -/
theorem connectionAt_of_connectSegment {descriptor : Descriptor} {segment : Segment String}
    (connected : Pool.connectSegment (connector hasFile) descriptor = .ok segment) (turn : Nat) :
    segment.connectionAt turn = descriptor.address :=
  eq_address_of_connectFrom (Pool.eq_of_connectSegment connected).1 _ (List.get_mem _ _)

theorem addresses_of_connectAll {descriptors : List Descriptor} {segments : List (Segment String)}
    (connected : Pool.connectAll (connector hasFile) descriptors = .ok segments) (turn : Nat) :
    (segments.map fun segment => segment.connectionAt turn) =
      descriptors.map Descriptor.address := by
  induction descriptors generalizing segments with
  | nil =>
      cases connected
      rfl
  | cons descriptor rest ih =>
      rw [Pool.connectAll] at connected
      split at connected
      · contradiction
      · next here =>
        split at connected
        · contradiction
        · next later =>
          cases connected
          rw [List.map_cons, List.map_cons, connectionAt_of_connectSegment here, ih later]

/-- At every turn the segments of a pool are the addresses of its specification. -/
theorem addresses_of_ofSpec {spec : Spec} {pool : Pool String}
    (connected : Pool.ofSpec spec (connector hasFile) = .ok pool) (turn : Nat) :
    (pool.segments.map fun segment => segment.connectionAt turn) =
      spec.clusters.map Descriptor.address := by
  rw [Pool.ofSpec] at connected
  split at connected
  · contradiction
  · contradiction
  · next first rest segments =>
    cases connected
    exact addresses_of_connectAll segments turn

/-- A cluster has the addresses of its specification as segments. -/
theorem segments_ofPool {spec : Spec} {pool : Pool String}
    (connected : Pool.ofSpec spec (connector hasFile) = .ok pool) :
    (ofPool pool).segments = spec.clusters.map Descriptor.address :=
  addresses_of_ofSpec connected 0

/-- A new cluster is empty. -/
theorem keeps_ofPool (kind : String → String → Json → Prop) {pool : Pool String}
    (distinct : (ofPool pool).segments.Nodup) : (ofPool pool).Keeps kind where
  nonempty := by
    rw [ofPool, ne_eq, List.map_eq_nil_iff]
    exact pool.nonempty
  distinct := distinct
  nodes _ := { ordered := fun _ => Keyed.sorted_nil, kept := fun found => nomatch found }

theorem document?_ofPool (pool : Pool String) (collection id : String) :
    (ofPool pool).document? collection id = none := by
  rw [document?]
  split
  · rfl
  · rfl

theorem allOnline_ofPool (pool : Pool String) : (ofPool pool).AllOnline :=
  fun _ _ => rfl

end Polystore.Cluster
