/-!
**Looking up what a reference points at.**

An edit of one entity that names another one is given an `EntityLookup` for its duration. The lookup
answers whether the named entity, or a file, is there; the edited entity keeps no link to it.
-/

namespace ContainerStack

/-- Which entities and files are there. -/
structure EntityLookup where
  hasService : String → Bool
  hasNetwork : String → Bool
  hasVolume : String → Bool
  hasSecret : String → Bool
  hasConfig : String → Bool
  pathExists : String → Bool

end ContainerStack
