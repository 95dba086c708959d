import PicoTorrent.Core.Text
import PicoTorrent.Libtorrent.AddTorrentParams
import PicoTorrent.Ui.Dialogs.AddTorrentDialog.FilePriorities
import PicoTorrent.Ui.Dialogs.AddTorrentDialog.Dialog
import PicoTorrent.Ui.Dialogs.AddTorrentDialog.MetadataFound
import PicoTorrent.Ui.Dialogs.AddTorrentDialog.Widgets
import PicoTorrent.Ui.Dialogs.AddTorrentDialog.Frame
import PicoTorrent.Ui.Dialogs.AddTorrentDialog.TorrentNames
import PicoTorrent.Ui.Dialogs.AddTorrentDialog.Editor
import PicoTorrent.Ui.Dialogs.AddTorrentDialog.PathHistory
import PicoTorrent.Application
import PicoTorrent.Application.Startup
import PicoTorrent.Nlohmann.Json
import PicoTorrent.Application.OtherInstance
import PicoTorrent.Client.Ws.WebsocketServer
import PicoTorrent.Client.Ws.TlsInit
import PicoTorrent.Client.Ws.Lifecycle
