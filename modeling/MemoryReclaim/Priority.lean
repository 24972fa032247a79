/-!
# Reclaim priorities

Lower values are more important and less killable.  Each state of a process has its
tier; the valid range is wider, because important applications may be given any floor
in it.
-/

namespace MemoryReclaim

abbrev Priority := Int

namespace Priority

def lowest : Priority := -1000

def foreground : Priority := 0

def visible : Priority := 50

/-- An extension that a foreground process is bound to. -/
def boundFromForeground : Priority := 100

/-- Background work that the user perceives: a running task or an event. -/
def perceived : Priority := 200

/-- Inside the grace window after an ability start. -/
def abilityStart : Priority := 250

def suspendDelay : Priority := 300

def connectedDevice : Priority := 350

def background : Priority := 400

def highest : Priority := 1000

/-- The priority of a bundle without processes. -/
def unknown : Priority := highest + 1

def isValid (priority : Priority) : Bool := lowest ≤ priority && priority ≤ highest

end Priority

end MemoryReclaim
