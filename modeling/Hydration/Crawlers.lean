/-
The processes that walk through whole file systems. A name is a crawler's if it is listed, letter by
letter; a list that repeats a name is as good as one that does not.
-/
import Hydration.Config.Basic

namespace Hydration

/-- The names that count as crawlers, each once. -/
structure Crawlers where
  names : List String
  nodup : names.Nodup

namespace Crawlers

def empty : Crawlers := ⟨[], .nil⟩

def contains (crawlers : Crawlers) (name : String) : Bool := crawlers.names.contains name

/-- The crawlers together with one more name. -/
def insert (name : String) (crawlers : Crawlers) : Crawlers :=
  if h : name ∈ crawlers.names then crawlers
  else ⟨name :: crawlers.names, List.nodup_cons.2 ⟨h, crawlers.nodup⟩⟩

/-- The crawlers of a list. -/
def ofList (names : List String) : Crawlers := names.foldr insert empty

def ofConfig (config : Config) : Crawlers := ofList config.crawlers

def size (crawlers : Crawlers) : Nat := crawlers.names.length

def isEmpty (crawlers : Crawlers) : Bool := crawlers.names.isEmpty

end Crawlers

end Hydration
