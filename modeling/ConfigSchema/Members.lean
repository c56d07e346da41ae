/-! # Members

Named entries: members of a JSON object, properties of a section, sections of a configuration. A
list built by insertions alone is sorted and names nothing twice. Names are ordered by code points,
which is also the order of their UTF-8 bytes. -/
namespace ConfigSchema

/-- Entries with their names, in order. -/
abbrev Members (α : Type) := List (String × α)

namespace Members

variable {α : Type}

/-- The entry of a name, the first one of several. -/
def get? : Members α → String → Option α
  | [], _ => none
  | (name, entry) :: rest, key => if name = key then some entry else get? rest key

def has (members : Members α) (key : String) : Bool := members.any fun member => member.1 == key

/-- Puts a new entry in place of the first one of its name. -/
def replace (key : String) (entry : α) : Members α → Members α
  | [] => []
  | (name, old) :: rest =>
    if name = key then (name, entry) :: rest else (name, old) :: replace key entry rest

/-- Puts an entry before the first greater name. -/
def place (key : String) (entry : α) : Members α → Members α
  | [] => [(key, entry)]
  | (name, old) :: rest =>
    if key < name then (key, entry) :: (name, old) :: rest else (name, old) :: place key entry rest

/-- Sets the entry of a name, as the ordered map of an object does. -/
def insert (members : Members α) (key : String) (entry : α) : Members α :=
  if members.has key then members.replace key entry else members.place key entry

/-- Sorted by name; of entries with one name the last is kept. -/
def sorted (members : Members α) : Members α :=
  members.foldl (fun done member => done.insert member.1 member.2) []

end Members

end ConfigSchema
