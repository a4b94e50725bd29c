/-!
# Where the administration lives

The paths below which a node serves its administration, and the name under which requests are
sent.
-/
namespace HealControl.Admin

def separator : String := "/"

/-- The reserved bucket, below which all administration lives. -/
def reservedBucket : String := "hulk"

def reservedPath : String := separator ++ reservedBucket

def adminPath : String := reservedPath ++ "/admin"

def apiVersion : String := "v3"

def apiPath : String := adminPath ++ separator ++ apiVersion

def userAgent : String := "Hulk-Heal/0.1.0"

end HealControl.Admin
