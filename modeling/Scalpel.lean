import Scalpel.RustStd
import Scalpel.Bincode
import Scalpel.Cache.Entry
import Scalpel.Cache.Store
import Scalpel.Cache.Rocks
import Scalpel.Cache.Shrink
import Scalpel.Cache.SaveLoad
import Scalpel.Cache.Calls
import Scalpel.Http.Service
import Scalpel.Http.Acceptor
import Scalpel.Http.Lifecycle
import Scalpel.Http.Route
import Scalpel.Http.Requests
