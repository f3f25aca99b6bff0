import WhileLang.Text.Encoding

/-!
# Encodings of East Asia

Encodings with several bytes for a character, under all names that they go by. Most of them are put
together from ASCII and the standards that number the characters.
-/

namespace WhileLang.Text.Encoding

/-! ## Standards -/

/-- The characters of JIS X 0208 (Japan). -/
def jisX0208 : List String := [
  "¢£§\u00a8¬°±\u00b4¶×÷Α-ΡΣ-Ωα-ρσ-ωЁА-яё‐―‖‘’“”†‡‥…‰′″※℃Å←-↓⇒⇔∀∂∃∇∈∋−√∝∞∠∧-∬∴∵∽≒≠≡≦≧≪≫⊂⊃⊆⊇",
  "⊥⌒─-┃┌┏┐┓└┗┘┛├┝┠┣┤┥┨┫┬┯┰┳┴┷┸┻┼┿╂╋■□▲△▼▽◆◇○◎●◯★☆♀♂♪♭♯\u3000-〃\u3005-〕〜ぁ-ん\u309b-\u309eァ-ヶ",
  "・-\u30fe一丁七万-下不与丐丑且-丙丞両並个中丱串丶丸丹主丼丿乂乃久之乍乎乏乕-乙九乞也乢乱乳乾亀亂亅了予-二于云互五井亘亙些亜亞-亢交亥亦亨享-亮亰亳亶人什仁仂仄仆仇今",
  "介仍从仏仔-仙仝仞仟代令以仭仮仰仲件价任企伉伊伍-休会伜伝伯估伴伶伸伺似伽佃但佇位-佑体何佗余-佞佩佯佰佳併佶佻佼使侃來侈例侍侏侑侖侘供依侠価侫侭侮侯侵侶便係促俄俊俎俐俑俔俗俘",
  "俚俛保俟信俣俤俥修俯俳俵俶俸俺俾倅倆倉個倍倏們倒倔倖候倚借倡倣-倦倨-倭倶倹偃假偈偉偏偐偕偖做停健偬偲側偵偶偸偽傀傅傍傑傘備傚催傭傲-債傷傾僂僅僉僊働像僑僕僖僚僞僣僥僧僭僮僵價",
  "僻儀儁儂億儉儒儔儕儖儘儚償儡優儲儷儺儻儼儿兀允元-光克-兎児兒兔党兜兢入全-兮共兵-典兼冀冂内円冉冊册再冏-冓冕冖冗写冠冢冤冥冦冨-冬冰-冷冽凄凅准凉凋凌凍凖凛凜凝几凡処凧凩凪",
  "凭凰凱凵凶凸凹出函凾刀刃刄分切刈刊刋刎刑刔列初判別刧利刪刮到刳制-刻剃剄則削-前剏剔剖剛剞剣剤剥剩剪副-創剽剿劃劇劈劉劍劑劒劔力功加劣助-劭励労劵効劼劾勁勃勅勇勉勍勒動勗勘務",
  "勝-勠勢勣勤勦勧勲勳勵勸勹勺勾勿匁匂包匆匈匍匏匐匕化北匙匚匝匠匡匣匪匯匱匳匸-医匿區十千卅-半卍卑-協南単博卜卞占卦卩卮-危即却卵卷卸卻卿厂厄厖厘厚原厠厥厦厨厩厭厮厰厳厶去参參",
  "又-収叔取受叙叛叟叡-句叨-右叶号司叺吁吃各合-向君吝吟吠否吩含-吮吶吸吹吻-吾呀呂呆呈呉告呎呑呟周呪呰呱味呵呶呷呻呼命咀咄咆咋和咎咏咐咒咢咤咥咨咫咬咯咲咳咸咼咽咾哀品哂哄哇哈",
  "哉哘員哢哥哦哨哩哭哮哲哺哽唄唆唇唏唐唔唖售唯唱唳唸唹唾啀啄啅商啌問啓啖啗啜啝啣啻啼啾喀喃善喇喉喊喋喘喙喚喜-喟喧-喬單喰営嗄嗅嗇嗔嗚嗜嗟嗣嗤嗷嗹嗽嗾嘆嘉嘔嘖嘗嘘嘛嘩嘯嘱嘲嘴嘶嘸",
  "噂噌噎噐噛噤器噪噫噬噴噸噺嚀嚆嚇嚊嚏嚔嚠嚢嚥嚮嚴嚶嚼囀-囃囈囎囑囓囗囘囚四回因団囮困囲図囹固国囿圀圃圄圈圉國圍圏園圓圖團圜土圦圧在圭地圷圸圻址坂均坊坎-坑坡坤坦坩坪坿垂垈垉型垓",
  "垠垢垣垤垪垰垳埀埃埆埋城埒埓埔埖埜域埠埣埴執培基埼堀堂堅堆堊堋堕堙堝堡堤堪堯堰報場堵堺堽塀塁塊塋塑塒塔塗-塚塞塢塩填塰塲塵塹塾境墅墓増墜墟墨墫墮墳墸-墻墾壁壅壇壊壌壑壓壕壗壘壙",
  "壜壞壟壤壥士壬壮-売壷壹-壽夂変夊夏夐夕外夘-夜夢夥大天-央失夲夷夸夾奄奇奈奉奎-契奔奕套奘奚奠奢奥奧-奪奬奮女奴奸好妁-妄妊妍妓妖妙妛妝妣妥妨妬妲妹妻妾姆姉始姐姑姓委姙姚姜姥",
  "姦姨姪姫姶姻姿威娃娉娑娘娚娜娟娠娥娩娯娵娶娼婀婁婆婉婚婢婦婪婬婿媒媚媛媼媽媾嫁嫂嫉嫋嫌嫐嫖嫗嫡嫣嫦嫩嫺嫻嬉嬋嬌嬖嬢嬪嬬嬰嬲嬶嬾孀孃孅子孑孔孕字存孚-孝孟季-学孩孫孰孱孳孵學孺宀",
  "它宅宇守安宋完宍宏宕宗-宝実客-宦宮宰害-家宸容宿寂-寇寉富寐寒寓寔寛寝寞察寡寢寤-審寫寮寰寳寵寶寸寺対寿封専射-尋對導小少尓尖尚尠尢尤尨尭就尸-屁居屆屈届屋屍-屑屓展属屠屡層",
  "履屬屮屯山屶屹岌岐岑岔岡岨岩岫岬岱岳岶岷岸岻岼岾峅峇峙峠峡峨峩峪峭峯峰島峺峻峽崇崋崎崑崔-崛崟崢崩嵋嵌嵎嵐嵒嵜嵩嵬嵯嵳嵶嶂嶄嶇嶋嶌嶐嶝嶢嶬嶮嶷嶺嶼嶽巉巌巍巒巓巖巛川州巡巣工-巨",
  "巫差己-巵巷巻巽巾市布帆帋希帑帖帙帚帛帝帥師席帯帰帳帶帷常帽幀幃幄幅幇幌幎幔幕幗幟幡-幤干-并幸-广庁広庄庇床序底庖店庚府庠度座庫庭庵-庸廁廂廃廈廉廊廏廐廓廖廚廛廝廟-廣廨廩廬",
  "廰廱廳廴延廷廸建廻廼廾廿弁弃弄弉-弍式弐弑弓-弘弛弟弥弦弧弩弭弯弱張強弸弼弾彁彈彊彌彎彑当彖彗彙彜彝彡形彦彩-彭彰影彳彷役彼彿-待徇很徊律後徐-従得徘徙從徠御徨復循徭微徳徴徹徼",
  "徽心必忌忍忖-忙応忝忠忤快忰忱念忸忻忽忿怎怏怐怒怕怖怙怛怜思怠怡急-怫怯怱怺恁恂恃恆恊恋恍恐恒恕恙恚恟恠恢-恥恨-恭息恰恵恷悁悃悄悉悋悌悍悒悔悖悗悚悛悟悠患悦悧悩悪悲-悶悸悼悽",
  "情惆惇惑惓惘惚惜惟惠惡惣惧惨惰惱想惴惶惷惹惺惻愀愁愃愆愈愉愍愎意愕愚愛感愡愧愨愬愴愼-愿慂慄慇慈慊-慎慓慕慘慙慚慝慟慢慣慥慧慨慫慮-慱慳-慷慾憂憇憊憎憐憑憔憖憙憚憤憧憩憫憬憮憲",
  "憶憺憾懃懆-懍懐懣懦懲懴懶懷懸懺懼-戀戈戉戊戌戍戎成我戒戔或戚戛戝戞戟戡戦截戮戯戰戲戳戴戸戻房所扁扇扈扉手才扎打払托扛扞扠扣扨扮扱扶批扼找承技抂抃抄抉把抑-折抛抜択披抬抱抵抹抻",
  "押抽拂担-拊拌拍拏-拔拗拘拙招拜拝拠拡括-拯拱拳拵拶拷拾拿持挂指挈按挌挑挙挟挧挨挫振挺挽挾挿捉捌捍捏捐捕捗捜捧捨捩捫据捲捶捷捺捻掀掃授掉掌掎掏排掖掘掛掟-掣接控-掬掲掴掵掻掾揀",
  "揃揄揆揉描提插揖揚換握揣揩揮援揶揺搆損搏搓搖搗搜搦搨搬搭搴搶携搾摂摎摘摧摩摯摶摸摺撃撈撒撓撕撚撞撤撥撩撫播撮撰撲撹撻撼擁擂擅擇操擒擔擘據擠-擣擦擧擬擯擱擲擴擶擺擽擾攀攅攘攜攝攣",
  "攤攪攫攬支攴-改攻放政故效敍敏救敕-教敝敞敢散敦敬数敲整敵敷數斂斃文斈斉斌斎斐斑斗料斛斜斟斡斤斥斧斫斬断斯新斷方於施旁旃-旆旋旌族旒旗旙旛无旡既日-早旬旭旱旺旻昂昃昆昇昊昌明昏",
  "易昔昜星映春昧昨昭是昴昵昶昼昿晁-晄晉晋晏晒晝晞晟晢晤晦-晩普景晰晴晶智暁暃暄暇暈暉暎暑暖暗暘暝暢暦暫暮暴暸暹暼暾曁曄曇曉曖曙曚曜曝曠曦曩曰曲-曵曷書曹曼-最會月有朋服朏朔-朗",
  "望朝朞期朦朧木未-朮朱朴朶朷朸机朽朿杁杆杉李-村杓杖杙杜杞-来杪杭杯-杳杵杷杼松板枅枇枉枋枌析枕林枚果枝枠枡枢枦枩枯枳枴架-枹柁柄柆柊柎-柑染柔柘柚柝柞柢柤柧柩柬柮柯柱柳柴柵査",
  "柾柿栂栃栄栓栖栗栞校栢栩株栫栲栴核根格栽桀-桃框案桍桎桐桑桓桔桙桜桝桟档桧桴桶桷桾桿梁梃梅梍梏梓梔梗梛條梟梠梢梦梧梨梭梯械梱梳梵梶梹梺梼棄棆棉棊棋棍棒棔棕棗棘棚棟棠棡棣棧森棯棲",
  "棹棺椀椁椄椅椈椋-椏椒椙-検椡椢椣椥椦椨椪椰椴椶椹椽椿楊楓楔楕楙楚楜楝楞楠楡楢楪楫業楮楯楳楴極楷楸楹楼楽楾榁概榊榎榑榔榕榛榜榠榧榮榱榲榴榻榾榿槁槃槇槊-槎槐槓様槙槝槞槧槨槫槭槲",
  "槹槻槽槿樂樅樊樋樌樒樓樔樗標樛樞樟模樢樣権横樫樮樵樶樸樹樺樽橄橇橈橋橘橙機橡橢橦橲橸橿檀檄檍檎檐檗檜檠檢檣檪檬檮檳檸檻櫁櫂櫃櫑櫓櫚櫛櫞櫟櫨櫪櫺櫻欄欅權欒欖欝欟欠次欣欧欲欷-欺欽",
  "款歃歇歉歌歎歐歓歔歙歛歟歡-此武歩歪歯歳歴歸歹死歿殀殃殄殆殉殊残殍殕殖殘殞殤殪殫殯殱-段殷殺殻殼殿毀毅毆毋母毎毒毓比毘毛毟毫毬毯毳氈氏民氓气気氛氣氤水氷永氾汀汁求汎汐汕汗汚",
  "汝-池汢汨汪汰汲汳決汽汾沁沂沃沈沌沍沐沒沓沖沙沚沛没沢沫沮沱河沸-沿況泄泅泉泊泌泓法泗泙泛泝泡波泣泥注泪泯泰泱泳洋洌洒洗洙洛洞洟津洩洪洫洲洳洵洶洸活洽派流浄浅浙浚浜浣浤浦浩浪浬",
  "浮浴海浸浹涅消涌涎涓涕涙涛涜涯液涵涸涼淀淅淆淇淋淌淑淒淕淘淙淞淡淤淦淨淪淫淬淮深淳淵混淹淺添清渇-渋渓渕渙渚減渝渟渠渡渣-渦温渫-港游渺渾湃湊湍湎湖湘湛湟湧湫湮湯湲湶湾湿満溂溌",
  "溏源準溘溜溝溟溢溥溪溯溲溶溷溺溽滂滄滅滉滋滌滑滓滔滕滝滞滬滯滲滴滷滸滾滿漁漂漆漉漏漑漓演漕漠漢漣漫漬漱漲漸漾漿潁潅潔潘潛潜潟潤潦潭-潰潴潸潺潼澀澁澂澄澆澎澑澗澡澣澤澪澱澳澹",
  "激-濃濆濔濕濘濛濟濠濡濤濫濬濮濯濱濳濶濺濾瀁瀉瀋瀏瀑瀕瀘瀚瀛瀝瀞瀟瀦瀧瀬瀰瀲瀾灌灑灘灣火灯灰灸灼災炉炊炎炒炙炬-炯炳炸点為烈烋烏烙烝烟烱烹烽焉焔焙焚焜無焦然焼煉煌煎煕煖煙煢",
  "煤-照煩煬煮煽熄熈熊熏熔熕熙熟熨熬熱熹熾燃燈燉燎燐燒燔燕燗營燠燥燦燧燬燭燮燵燹燻燼燿爆爍爐爛爨爪爬爭爰爲爵父爺-牀牆片版牋牌牒牘牙牛牝牟牡牢牧物牲牴特牽牾犀犁犂犇犒犖犠犢犧犬犯",
  "犲状犹狂狃狄狆狎狐狒狗狙狛狠狡狢狩独狭狷狸狹狼狽猊猖猗猛猜猝猟猥猩猪猫献猯猴猶猷猾猿獄獅獎獏獗獣獨獪獰獲獵獸獺獻玄率玉王玖玩玲玳玻珀珂珈珊珍珎珞珠珥珪班珮珱珸現球琅理琉琢琥",
  "琲-琶琺琿瑁瑕瑙-瑜瑞瑟瑠瑣瑤瑩瑪瑯瑰瑳瑶瑾璃璋璞璢璧環璽瓊瓏瓔瓜瓠瓢瓣瓦瓧瓩瓮瓰瓱瓲瓶瓷瓸甃甄甅甌甍甎甑甓甕甘甚甜甞生産甥甦用甫甬田-申男甸町画甼畄畆畉-畍畏畑畔留-畝畠畢",
  "畤-畧畩番畫畭異畳畴當畷畸畿疂疆疇疉疊疋疎疏疑疔疚疝疣疥疫疱疲疳疵疸疹疼疽疾痂痃病症痊痍痒痔痕痘痙痛痞痢痣痩痰痲痳痴痺痼痾痿瘁瘉瘋瘍瘟-瘢瘤瘧瘰瘴瘻療癆癇癈癌癒癖癘癜癡癢癧-癪",
  "癬癰癲癶癸発-百皀皃的皆皇皈皋皎皐皓皖皙皚皮皰皴皷-皺皿盂盃盆盈益盍盒盖盗盛盜盞盟盡監盤盥盧盪目盲直相盻盾省眄眇眈眉看県眛眞真眠眤眥眦眩眷眸眺眼着睇睚睛睡督睥睦睨睫睹睾睿瞋瞎瞑",
  "瞞瞠瞥瞬瞭瞰瞳瞶瞹瞻瞼瞽瞿矇矍矗矚矛矜矢矣知矧矩短矮矯石矼砂砌砒研砕砠砥砦砧砲破砺砿硅硝硫硬硯硲硴硼碁碆碇碌碍碎碑碓碕碗碚碣碧碩碪碯碵確碼碾磁磅磆磊磋磐磑磔磚磧磨磬磯磴磽礁礇礎",
  "礑礒礙礦礪礫礬示礼社祀祁祇祈祉祐祓祕祖祗祚祝-祠祢祥票祭祷祺祿禀禁禄禅禊禍禎福禝禦禧禪禮禰禳禹禺禽-私秉秋科秒秕秘租秡秣秤秦秧秩秬称移稀稈程稍税稔稗-稚稜稟稠種稱稲稷稻-穀穂穃",
  "穆穉積-穐穗穡穢穣穩穫穰穴究穹空穽穿突窃窄窈窒窓窕-窘窟窩窪窮窯窰窶窺窿竃竄竅竇竈竊立竍竏竒竓竕站竚竜竝竟-竣童竦竪竭端竰競竸竹竺竿笂笄笆笈笊笋笏笑笘笙笛笞笠笥符笨第笳笵笶笹筅",
  "筆筈等筋筌筍筏-筒答策筝筥筧筬筮筰筱筴筵筺箆箇箋箍箏箒箔箕算-箚箜箝箟管箪箭箱箴箸節篁範篆篇築篋篌篏篝篠篤篥篦篩篭篳篶篷簀簇簍簑-簔簗簟簡簣簧簪簫簷簸簽-籀籃籌籍籏籐籔籖籘籟籠",
  "籤籥籬米籵籾粁粂粃粉粋粍粐粒粕粗粘粛粟粡粢粤粥粧粨粫粭粮粱粲粳粹粽精糀糂糅糊糎糒糖糘糜糞糟糠糢糧糯糲糴糶糸糺系糾紀紂約紅紆紊紋納紐純紕紗-紜素紡索紫紬紮累細紲紳紵紹紺紿終-絆絋",
  "経絎絏結絖絛絞絡絢絣給絨絮統絲絳絵絶絹絽綉綏經継-綜綟綢綣綫-網綴綵綸綺綻綽綾綿緇緊緋総緑緒緕緘線緜緝緞締緡緤編緩緬緯緲練緻縁縄縅縉縊縋縒縛縞縟縡縢縣縦縫縮縱縲縵縷縹縺縻總績繁",
  "繃繆繊繋繍織繕繖繙繚繝繞繦繧繩繪繭繰繹繻繼繽繿纂纃纈纉續纎纏纐纒纓纔纖纛纜缶缸缺罅罌罍罎罐网罔罕罘罟罠罧-罫置罰署罵罷罸罹羂羃羅-羈羊羌美羔羚羝羞羣群羨義羮羯羲羶羸羹羽翁翅翆翊",
  "翌習翔翕翠翡翦翩翫翰翳翹翻翼耀老考-耆耋而耐耒耕耗耘耙耜耡耨耳耶耻耽耿聆聊聒聖聘聚聞聟聡聢聨聯聰聲聳聴聶職聹聽聾聿肄-肇肉肋肌肓肖肘肚肛肝股肢肥肩肪肬肭肯肱育肴肺胃胄胆背胎胖胙",
  "胚胛胝胞胡胤胥胯胱胴胸胼能脂脅-脊脚脛脣脩脯脱脳脹脾腆腋腎腐腑腓腔腕腟腥腦腫腮腰腱腴腸腹腺腿膀膂膃膈膊膏膓膕膚膜膝膠膣膤膨膩膰膳膵膸膺膽-臀臂臆臈臉臍臑臓臘臙臚臟臠臣臥臧臨自臭",
  "至致臺臻臼臾舁舂舅與-舊舌舍舎舐舒舖舗舘舛舜舞舟舩-般舮舳舵-船艀艇艘艙艚艝艟艢艤艦艨艪艫艮良艱色艶艷艸艾芋芍芒芙芝芟芥芦芫芬芭芯花芳芸芹芻芽苅苑-苔苗苙苛苜苞苟苡苣若苦苧苫英",
  "苳苴苹苺苻茂-茆茉茎茖茗茘茜茣茨茫茯茱茲茴茵茶茸茹荀荅草荊荏荐荒荘荳荵荷荻荼莅莇莉莊莎莓莖莚莞莟莠莢莨莪莫莱莵莽菁菅菊菌菎菓菖菘菜菟菠菩菫華-菲菴菷菻菽萃萄萇萋-萎萓萠萢萩萪萬",
  "萱萵萸萼落葆葉葎著葛葡葢董葦葩葫-葯葱葵葷葹葺蒂蒄蒋蒐蒔蒙蒜蒟蒡蒭蒲蒸蒹蒻蒼蒿蓁蓄蓆蓉蓊蓋蓍蓐蓑蓖蓙蓚蓬蓮蓴蓼蓿蔀蔆蔑蔓蔔蔕蔗蔘蔚蔟蔡蔦蔬蔭蔵蔽蕀蕁蕃蕈-蕋蕎蕕蕗蕘蕚蕣蕨蕩蕪蕭",
  "蕷蕾薀薄薇薈薊薐薑薔薗薙薛薜薤薦薨-薬薮薯薹薺藁藉藍藏藐藕藜藝藤藥藩藪藷藹藺藻藾蘂蘆蘇蘊蘋蘓蘖蘗蘚蘢蘭蘯蘰蘿虍虎虐虔處虚虜虞號虧虫虱虹虻蚊蚋蚌蚓蚕蚣蚤蚩蚪蚫蚯蚰蚶蛄蛆蛇蛉蛋蛍蛎",
  "蛔蛙蛛蛞蛟蛤蛩蛬-蛯蛸蛹蛻蛾蜀蜂蜃蜆蜈蜉蜊蜍蜑蜒蜘蜚蜜蜥蜩蜴蜷蜻蜿蝉蝋蝌蝎蝓蝕蝗蝙蝟蝠蝣蝦蝨蝪蝮蝴蝶蝸蝿螂融螟螢螫螯螳螺螻螽蟀蟄蟆蟇蟋蟐蟒蟠蟯蟲蟶蟷蟹蟻蟾蠅蠍蠎蠏蠑蠕蠖蠡蠢蠣蠧",
  "蠱蠶蠹蠻血衂衄衆行衍衒術街衙衛衝衞衡衢衣表衫衰衲衵衷衽衾衿袁袂袈袋袍袒袖袗袙袞袢袤被袮袰袱袴袵袷袿裁-装裏裔裕裘裙補裝裟裡裨裲裳裴裸裹裼製裾褂褄複褊褌褐褒褓褝褞褥褪褫褶褸褻襁襃",
  "襄襌襍襖襞襟襠襤襦襪襭襯襲襴襷襾西要覃覆覇覈覊見規覓視覗覘覚覡覦覧覩親覬覯覲観覺覽覿觀角觚觜觝解触觧觴觸言訂訃計訊訌討訐訓訖託記訛訝訟訣訥訪設許訳訴訶診註証詁詆詈詐詑詒詔評詛詞",
  "詠詢詣試詩詫-詮詰-詳詼誂誄誅誇誉誌認誑誓誕誘誚語誠誡誣-誦誨説読誰課誹誼調諂諄談請諌諍諏諒論諚諛諜諞諠諡諢諤諦諧諫諭諮諱諳諷諸諺諾謀謁謂謄謇謌謎謐謔謖謗謙謚講謝謠謡謦謨謫謬謳",
  "謹謾譁證譌譎譏譖識譚譛譜譟警譫譬譯-譲譴護譽讀讃變讌讎讐讒讓讖讙讚谷谺谿豁豆豈豊豌豎豐豕豚象豢豪豫豬豸豹豺豼貂貅貉貊貌貍貎貔貘貝貞負財貢貧-貰貲貳貴貶買貸費貼貽貿-賄資賈賊賍賎",
  "賑賓賚賛賜賞賠賢賣賤賦質賭賺-賽贄贅贇贈贊贋贍贏贐贓贔贖赤赦赧赫赭走赱赳赴起趁超越趙趣趨足趺趾跂跋跌跏跖跚跛距跟跡跣跨跪跫路跳践跼跿踈踉踊踏踐踝踞踟踪踰踴踵蹂蹄蹇-蹊蹌蹐蹕蹙蹟",
  "蹠蹣蹤蹲蹴蹶蹼躁躄躅躇躊躋躍躑躓躔躙躡躪身躬躯躰躱躾軅軆軈車-軍軒軛軟転軣軫軸軻-軾較輅載輊輌輒-輕輙輛輜輝輟輦輩輪輯輳輸輹輻輾輿轂轄轅轆轉轌轍轎轗轜轟轡-轤辛辜辞辟辣辧辨",
  "辭-農辷辺辻込辿迂迄迅迎近返迚迢迥迦迩迪迫迭迯述迴迷-迺追退送逃逅逆逋逍-逑逓-逗這通逝-連逧逮週進逵逶逸逹逼逾遁遂遅遇遉遊運遍-遖遘遙遜遞遠遡遣遥遨適遭遮遯遲遵-選遺遼遽",
  "避-還邇邉邊邏邑那邦邨邪邯邱邵邸郁郊郎郛郡郢郤部郭郵郷都鄂鄒鄙鄭鄰鄲酉-酎酒酔酖酘酢酣酥酩酪酬酲酳酵酷酸醂醇醉醋醍醐醒醗醜醢醤醪醫醯醴醵醸醺釀釁釆-釉釋-金釖釘釛釜針釟釡釣釦釧",
  "釵釶釼釿鈍鈎鈑鈔鈕鈞鈩鈬鈴鈷鈿鉄鉅鉈鉉鉋鉐鉗鉚鉛鉞鉢鉤鉦鉱鉾銀銃銅銑銓銕銖銘銚銛銜銭銷銹鋏鋒鋤鋩鋪鋭鋲鋳鋸鋺鋼錆錏錐錘錙錚錠錢錣錦錨錫錬錮錯録錵錺錻鍄鍋鍍鍔鍖鍛鍜鍠鍬鍮鍵鍼鍾鎌",
  "鎔鎖鎗鎚鎧鎬鎭鎮鎰鎹鏃鏈鏐鏑鏖鏗鏘鏝鏡鏤鏥鏨鐃鐇鐐鐓鐔鐘鐙鐚鐡鐫鐵鐶鐸鐺鑁鑄鑑鑒鑓鑚鑛鑞鑠鑢鑪鑰鑵鑷鑼-鑿钁長門閂閃閇閉閊開閏閑間閔閖閘閙閠関-閥閧閨閭閲閹閻閼閾闃闇闊闌闍闔闕",
  "闖闘關闡闢闥阜阡阨阪阮阯防阻阿陀陂附陋陌降陏限陛-陟院-陦陪陬陰陲陳陵-陸険陽隅隆隈隊隋隍階随隔隕隗隘隙際障隠隣隧隨險隰隱隲隴隶-隹隻隼雀雁雄-雇雉雋-雎雑雕雖雙雛雜離難雨雪雫",
  "雰雲零雷雹電需霄霆震霈霊霍霎霏霑霓霖霙霜霞霤霧霪霰露霸霹霽霾靂靄靆靈靉青靖静靜非靠靡面靤靦靨革靫靭靱靴靹靺靼鞁鞄鞅鞆鞋鞍鞏鞐鞘鞜鞠鞣鞦鞨鞫鞭鞳鞴韃韆韈韋韓韜韭韮韲音韵韶韻響頁頂",
  "頃項順須頌頏-頓頗領頚頡頤頬頭頴頷頸頻頼頽顆顋-顏顔顕願顛類顧顫顯顰顱顳顴風颪颯颱颶飃飄飆飛飜食飢飩飫飭飮飯飲飴飼飽飾餃餅餉養餌餐餒餓餔餘餝餞餠餡餤館餬餮餽餾饂饅饉饋饌饐饑饒饕",
  "饗首-香馥馨馬馭馮馳馴馼駁駄駅駆駈駐駑駒駕駘駛駝駟駢駭駮駱駲駸駻駿騁騅騎騏騒験騙騨騫騰騷騾驀驂驃驅驍驕驗驚驛驟驢驤驥驩驪驫骨骭骰骸骼髀髄髏髑髓體高髞髟髢髣髦髪髫髭髮髯髱髴髷髻鬆",
  "鬘鬚鬟鬢鬣鬥鬧-鬪鬮鬯鬱鬲鬻鬼魁-魅魍魎魏魑魔魘魚魯魴鮃鮎鮑鮒鮓鮖鮗鮟鮠鮨鮪鮫鮭鮮鮴鮹鯀鯆鯉鯊鯏鯑鯒鯔鯖鯛鯡-鯤鯨鯰鯱鯲鯵鰄鰆鰈鰉鰊鰌鰍鰐鰒-鰕鰛鰡鰤鰥鰭-鰰鰲鰹鰺鰻鰾鱆鱇鱈鱒",
  "鱗鱚鱠鱧鱶鱸鳥鳧鳩鳫鳬鳰鳳鳴鳶鴃鴆-鴉鴎鴒鴕鴛鴟鴣鴦鴨鴪鴫鴬鴻鴾鴿鵁鵄鵆鵈鵐鵑鵙鵜鵝鵞鵠鵡鵤鵬鵯鵲鵺鶇鶉鶏鶚鶤鶩鶫鶯鶲鶴鶸鶺鶻鷁鷂鷄鷆鷏鷓鷙鷦鷭鷯鷲鷸鷹鷺鷽鸚鸛鸞鹵鹸鹹鹽鹿麁麈",
  "麋麌麑麒麓麕麗麝麟麥麦麩麪麭麸-麼麾麿黄黌-黐黒黔默黙黛-點黠黥黨黯黴黶黷黹黻黼黽鼇鼈鼎鼓鼕鼠鼡鼬鼻鼾齊齋齎齏齒齔齟-齣齦齧齪齬齲齶齷龍龕龜龝龠！＃-＆（-，．-｝\uffe3",
  "￥"]

/-- The characters of JIS X 0212, the supplement to JIS X 0208. -/
def jisX0212 : List String := [
  "¡¤¦©ª®\u00af\u00b8º¿-ÏÑ-ÖØ-öø-ēĖ-ĢĤ-īĮ-ōŐ-žǍ-ǜǵ\u02c7\u02d8-\u02db\u02dd\u0384\u0385ΆΈΉΊ",
  "ΌΎΏΐΪ-ΰςϊ-ώЂ-ЌЎЏђ-ќўџ№™丂丄丅丌丒丟丣两丨丫丮丯丰丵乀乁乄乇乑乚乜乣乨乩乴乵乹乿亍亖亗亝亯亹仃仐仚仛仠仡仢仨仯仱仳仵份-伀伂伃伈伋伌伒伕伖众伙伮伱伳伵伷伹",
  "伻伾佀佂佈佉佋佌佒佔佖佘佟你佣佪佬佮佱佷-佺佽佾侁侂侄侅侉侊侌侎侐侒侓侔侗侙侚侞侟侲侷侹侻-侾俀俁俅俆俈俉俋俌俍俏俒俜俠俢俰俲俼俽俿倀倁倄倇倊倌倎倐倓倗倘倛-倞倢倧倮倰倲倳倵倻",
  "偀偁偂偅偆偊偌偎偑偒偓偗偙偟偠偢偣偦偧偪偭偰偱傁傃傄傆傊傎傏傐傒傓傔傖傛傜傞-傢傪傯傰傹傺傽僀僃僄僇僌僎僐僓僔僘僜僝僟僢僤僦僨僩僯僱僲僶僺僾儃儆儇儈儋-儎儐儗儙儛-儞儣儧儨儬儭",
  "儯儱儳儴儵儸儹兂兊兏兓兕兗兘兟兤兦兾冃冄冋冎冘冝冡冣冭冸冺冼冾冿凂凈减凑凒凓凕凘凞凢凥凮凲凳凴凷刁刂刅划刓刕刖刘刢刨刱刲刵刼剅剉剕剗剘剚剜剟剠剡剦剮剷剸剹劀劂劅劊劌劓劕-劘劚劜",
  "劤-劧劯劰劶劷劸劺劻劽勀勄勆勈勌勏勑勔勖勛勜勡勥勨勩勪勬勰勱勴勶勷匀匃匊匋匌匑匓匘匛匜匞匟匥匧匨匩匫匬匭匰匲匵匼匽匾卂卋卌卙卛卡卣卥卬卭卲卹卾厃厇厈厎厓厔厙厝厡厤厪厫厯厲厴厵厷",
  "厸厺厽叀叅叏叒叓叕叚叝叞叠另叧叵吂吓吚吡吧吨吪启吱吴吵呃呄呇呍呏呞呢呤呦呧呩呫呭呮呴呿咁咃咅咈咉咍咑咕咖咜咟咡咦咧咩咪咭咮咱咷咹咺咻咿哆哊响哎哠哪哬哯哶哼哾-唁唅唈唉唌唍唎唕唪",
  "唫唲唵唶唻唼唽啁啇啉啊啍啐啑啘啚啛啞啠啡啤啦啿喁喂喆喈喎喏喑-喔喗喣喤喭喲喿嗁嗃嗆嗉嗋嗌嗎嗑嗒嗓嗗嗘嗛嗞嗢嗩嗶嗿嘅嘈嘊嘍-嘒嘙嘬嘰嘳嘵嘷嘹嘻嘼嘽嘿噀噁噃噄噆噉噋噍噏噔噞噠-噣噦",
  "噩噭噯噱噲噵嚄嚅嚈嚋嚌嚕嚙嚚嚝嚞嚟嚦-嚩嚫嚬嚭嚱嚳嚷嚾囅囉-囍囏囐囙囜囝囟囡囤-囨囫园囱囶囷圁圂圇圊圌圑圕圚圛圝圠圢-圥圩圪圬圮圯圳圴圽圾圿坅坆坌坍坒坢坥坧坨坫坭-坱坳坴坵坷",
  "坹-坼坾垁垃垌垔垕垗垙垚垜-垟垡垧垨垩垬垸垽埇埈埌埏埕埝埞埡埤埦埧埩埭埰埵埶埸埽埾埿堃堄堈堉堌堍堛堞堟堠堦堧堭堲堹堿塉塌塍塏塐塕塟塡塤塧塨塸塼塿墀墁墇-墊墌墍墏墐墔墖墝墠墡墢墦",
  "墩墱墲墼壂壄壈壍壎壐壒壔壖壚壝壡壢壩壳夅夆夋夌夒夓夔夝夡夣夤夨夯夰夳夵夶夿奃奆奒奓奙奛奝奞奟奡奣奫奭奯奲奵奶她奻奼妋妌妎妒妕妗妟妤妧妭-妰妳妷妺妼姁姃姄姈姊姍姒姝姞姟姣姤姧姮姯",
  "姱姲姴姷娀娄娌娍娎娒娓娞娣娤娧娨娪娭娰婄婅婇婈婌婐婕婞婣婥婧婭婷婺婻婾媋媐媓媖媙媜媞媟媠媢媧媬媱媲媳媵媸媺媻媿嫄嫆嫈嫏嫚嫜嫠嫥嫪嫮嫵嫶嫽嬀嬁嬈嬗嬙嬛嬝嬡嬥嬭嬴嬸孁孋孌孒孖孞孨孮",
  "孯孼-孿宁宄宆宊宎宐宑宓宔宖宨宩宬宭宯宱宲宷宺宼寀寁寍寏寖-寚寠寯寱寴寽尌尗尞尟尣尦尩尫尬尮尰尲尵尶屙屚屜屢屣屧屨屩屭屰屴屵屺-屽岇岈岊岏岒岝岟岠岢岣岦岪岲岴岵岺峉峋峒峗峝峮峱",
  "峲峴崁崆崍崒崣崤崦崧崫崱崴崹崽崿嵂嵃嵆嵈嵊嵑嵕嵙嵟-嵢嵤嵪嵭嵰嵹嵺嵾嵿嶁嶃嶈嶊嶒-嶕嶙嶛嶟嶠嶧嶫嶰嶲嶴嶸嶹巃巇巋巎巐巘巙巠巤巩巸巹帀帇帍帒帔帕帘帟帠帨帮帲帵帾幉幋幐幑幖幘幛幜幞",
  "幨幪-幮幰庀庋庎庢庤庥庨庪庬庱庳庽庾庿廆廋廌廎廑廒廔廕廜廞廥廫异弆弇弈弎弙弜弝弡-弤弨弫弬弮弰弴弶弻弽弿彀彄彅彇彍彐彔彘彛彠彣彤彧彯彲彴彵彸彺彽彾徉徍徏徖徜徝徢徤徧徫徬徯徰徱徸",
  "忄忇忈忉忋忐-忔忞忡忢忨忩忪忬-忯忲忳忶忺忼怇怊怍怓怔怗怘怚怟怤怭怳怵恀恇恈恉恌恑恔恖恗恝恡恧恱恾恿悂悆悈悊悎悑悓悕悘悝悞悢悤悥您悰悱悷悻悾惂惄惈-惋惎惏惔惕惙惛惝惞惢惥惲惵惸",
  "惼惽愂愇愊愌愐-愔愖愗愙愜愞愢愪愫愰愱愵愶愷愹慁慅慆慉慞慠慬慲慸慻慼慿憀憁憃憄憋憍憒憓憗憘憜憝憟憠憥憨憪憭憸憹憼懀懁懂懎懏懕懜-懟懡懢懥懧懩懬懭懯戁戃戄戇戓戕戜戠戢戣戧戩戫戹戽",
  "扂扃扄扆扌扐扑扒扔扖扚扜扤扭扯扳扺扽抍-抐抦抨抳抶抷抺抾抿拄拎拕拖拚拪拲拴拼拽挃挄挊挋挍挐挓挖挘挩挪挭挵挶挹挼捁-捄捆捊捋捎捒捓捔捘捛捥捦捬捭捱捴捵捸捼捽捿掂掄掇掊掐掔掕掙掚掞",
  "掤掦掭掮掯掽揁揅揈揎揑揓揔揕揜揠揥揪揬揲揳揵揸揹搉搊搐搒搔搘搞搠搢搤搥搩搪搯搰搵搽搿摋摏摑-摔摚-摝摟摠摡摣摭摳摴摻摽撅撇撏撐撑撘撙撛撝撟撡撣撦撨撬撳撽撾撿擄擉-擌擎擐擑擕擗擤",
  "擥擩擪擭擰擵擷擻擿攁攄攈攉攊攏攓攔攖攙攛攞攟攢攦攩攮攱攺攼攽敃敇敉敐敒敔敟敠敧敫敺敽斁斅斊斒斕斘斝斠斣斦斮斲斳斴斿旂旈旉旎旐旔旖旘旟旰旲旴旵旹旾旿昀昄昈昉昍昑昒昕昖昝昞昡-昤昦",
  "昩-昬昮昰昱昳昷昹晀晅晆晊晌晎晑晗晘晙晛晜晠晡晪晫晬晳晵晷晸晹晻晼晾晿暀暋暌暍暐暒暙-暜暟暠暤暭暱暲暵暻暿曀曂曃曈曌曎曏曔曛曟曨曫曬曮曺曻朅朇朎朓朙朜朠朢朳朾杅杇杈杌杔杕杝杦杬",
  "杮杴杶杻极构枎枏枑枓枖枘枙枛枰枱枲枵枻枼枽柀柂柃柅柈柉柒柗柙柜柡柦柰柲柶柷柹栔栙栝栟栧栨栬栭栯栰栱栳栻栿桄桅桊桌桒桕桗桘桛桫桮-桲桵桹-桼梂梄梆梈梖梘梚梜梡梣梥梩梪梮梲梻棅棈棌",
  "棏棐棑棓棖棙棜棝棥棨棪-棭棰棱棵棶棻棼棽椆椉椊椐椑椓椖椗椱椳椵椸椻楂楅楉楎楗楛楣-楦楨楩楬楰楱楲楺楻楿榀榍榒榖榘榡榥榦榨榫榭榯榷榸榺榼槅槈槑槖槗槢槥槮槯槱槳槵槾樀樁樃樏樑樕樚樝",
  "樠樤樨樰樲樴樷樻樾樿橅橆橉橊橎橐橑橒橕橖橛橤橧橪橱橳橾檁檃檆檇檉檋檑檛檝檞檟檥檫檯檰檱檴檽檾檿櫆櫈櫉櫌櫐櫔櫕櫖櫜櫝櫤櫧櫬櫰櫱櫲櫼櫽欂欃欆欇欉欏欐欑欗欛欞欤欨欫欬欯欵欶欻欿歆歊歍",
  "歒歖歘歝歠歧歫歮歰歵歽歾殂殅殗殛殟殠殢殣殨殩殬殭殮殰殸殹殽殾毃毄毉毌毖毚毡毣毦毧毮毱毷毹毿氂氄氅氉氍氎氐氒氙氟氦氧氨氬氮氳氵氶氺氻氿汊汋汍汏汒汔汙汛汜汧汫汭汯汴汶汸汹汻沅沆沇沉",
  "沔沕沗沘沜沟沰沲沴泂泆泍泏-泒泔泖泚泜泠泧泩泫泬泮泲泴洄洇洊洎洏洑洓洚洦洧洨洮洯洱洹洼洿浗浞浟浡浥浧浯浰浼涂涇涑涒涔涖涗涘涪涬涴涷涹涽涿淄淈淊淎淏淖淛淝淟淠淢淥淩淯淰淴淶淼渀渄",
  "渞渢渧渲渶渹渻渼湄湅湈湉湋湏湑-湔湗湜湝湞湢湣湨湳湻湽溍溓溙溠溧溭溮溱溳溻溿滀滁滃滇滈滊滍滎滏滫滭滮滹滻滽漄漈漊漌漍漖漘漚漛漦漩漪漭漯漰漳漶漻漼潏潑潒潓潗潙潚潝潞潡潢潨潬潽潾澃",
  "澇澈澋澌澍澐澒澓澔澖澚澟澠澥-澨澮澯澰澵澶澼濅濇濈濊濚濞濨濩濰濵濹濼濽瀀瀅瀆瀇瀍瀗瀠瀣瀯瀴瀷瀹瀼灃灄灈-灋灎灔灕灝灞灤灥灬灮灵灶灾炁炅炆炔-炘炛炤炫炰炱炴炷烊烑烓-烖烘烜烤烺",
  "焃-焇焋焌焏焞焠焫焭焯焰焱焸煁煅煆煇煊煋煐煒煗煚煜煞煠煨煹熀熅熇熌熒熚熛熠熢熯熰熲熳熺熿燀燁燄燋燌燓燖燙燚燜燸燾爀爇爈爉爓爗爚爝爟爤爫爯爴爸爹牁牂牃牅牎牏牐牓牕牖牚牜牞牠牣牨牫",
  "牮牯牱牷牸牻牼牿犄犉犍犎犓犛犨犭犮犱犴犾狁狇狉狌狕狖狘狟狥狳狴狺狻狾猂猄猅猇猋猍猒猓猘猙猞猢猤猧猨猬猱猲猵猺猻猽獃獍獐獒獖獘獝-獠獦獧獩獫獬獮獯獱獷獹獼玀玁玃玅玆玎玐玓玕玗玘玜",
  "玞玟玠玢玥玦玪玫玭玵玷玹玼玽玿珅珆珉珋珌珏珒珓珖珙珝珡珣珦珧珩珴珵珷珹珺珻珽珿琀琁琄琇琊琑琚琛琤琦琨-琱琹瑀瑃瑄瑆瑇瑋瑍瑑瑒瑗瑝瑢瑦瑧瑨瑫瑭瑮瑱瑲璀璁璅璆璇璉璏-璒璘璙璚璜璟璠",
  "璡璣璦璨-璫璮璯璱璲璵璹璻璿瓈瓉瓌瓐瓓瓘瓚瓛瓞瓟瓤瓨瓪瓫瓯瓴瓺瓻瓼瓿甆甒甖甗甠甡甤甧甩甪甯甶甹甽-畀畃畇畈畎畐畒畗畞畟畡畯畱畹-畾疁疅疐疒疓疕疙疜疢疤疴疺疿痀痁痄痆痌痎痏痗痜痟",
  "痠痡痤痧痬痮痯痱痹瘀瘂瘃瘄瘇瘈瘊瘌瘏瘒瘓瘕瘖瘙瘛-瘞瘣瘥瘦瘩瘭瘲瘳瘵瘸瘹瘺瘼癀癁癃癄癅癉癊癋癕癙癟癤癥癭癮癯癱癴皁皅皌皍皕皛皜皝皟皠皢-皨皪皭皽盁盅盉盋盌盎盔盙盠盦盨盬盰盱盶盹",
  "盼眀眆眊眎眒眔眕眗眙眚眜眢眨眭眮眯眴眵眶眹眽眾睂睅睆睊睍睎睏睒睖睗睜睞睟睠睢睤睧睪睬睰睲睳睴睺睽瞀瞄瞌瞍瞔瞕瞖瞚瞟瞢瞧瞪瞮瞯瞱瞵瞾矃矉矑矒矕矙矞矟矠矤矦矪矬矰矱矴矸矻砅砆砉砍砎",
  "砑砝砡砢砣砭砮砰砵砷硃硄硇硈硌硎硒硜硞硠硡硣硤硨硪确硺硾碊碏碔碘碝碞碟碡碤碨碬碭碰-碳碻碽碿磇磈磉磌磎磒磓磕磖磛磟磠磡磤磦磪磲磳磶磷磺磻磿礀礆礌礐礚礜礞礟礠礥礧礩礭礱礴礵礻礽礿",
  "祄祅祆祊祋祏祑祔祘祛祜祧祩祫祲祹祻祼祾禋禌禑禓-禖禘禛禜禡禨禩禫禯禱禴禸离秂秄秇秈秊秏秔秖秚秝秞秠秢秥秪秫秭秱秸秼稂稃稇稉稊稌稑稕稛稞稡稧稫稭稯稰稴稵稸稹稺穄穅穇穈穌穕穖穙穜穝",
  "穟穠穥穧穪穭穵穸穾窀窂窅窆窊窋窐窑窔窞窠窣窬窳窵窹窻窼竆竉竌竎竑竛竨竩竫竬竱竴竻竽竾笇笔笟笣笧笩笪笫笭-笱笴笽笿筀筁筇筎筕筠筤筦筩筪筭筯筲筳筷箄箉箎箐箑箖箛箞箠箥箬箯箰箲箵箶",
  "箺-箽篂篅篈篊篔篖篗篙篚篛篨篪篲篴篵篸篹篺篼篾簁-簄簆簉簋簌簎簏簙簛簠簥簦簨簬簱簳簴簶簹簺籆籊籑籒籓籕籙-籞籡籣籧籩籭籮籰籲籹籼籽粆粇粏粔粞粠粦粰粶粷粺粻粼粿糄糇糈糉糍糏糓糔糕",
  "糗糙糚糝糦糩糫糵紃紇紈紉紏紑紒紓紖紝紞紣紦紪紭紱紼紽紾絀絁絇絈絍絑絓絗絙絚絜絝絥絧絪絰絸絺絻絿綁綂綃綅綆綈綋綌綍綑綖綗綝綞綦綧綪綳綶綷綹緂-緆緌緍緎緗緙緢緥緦緪緫緭緱緵緶緹緺縀",
  "縈縐縑縕縗縜縝縠縧縨縬縭縯縳縶縿繄繅繇繎繐繒繘繟繡繢繥繫繮繯繳繸繾纁纆纇纊纍纑纕纘纚纝纞缻-缿罃罄罇罏罒罓罛罜罝罡罣-罦罭罱罽-羀羋羍羏羐羑羖羗羜羡羢羦羪羭羴羼羿翀翃翈翎翏翛翟",
  "翣翥翨翬翮翯翲翺翽翾翿耇耈耊耍耎耏耑耓耔耖耝-耠耤耦耬耮耰耴耵耷耹耺耼耾聀聄聠聤聦聭聱聵肁肈肎肜肞肦肧肫肸肹胈胍胏胒胔胕胗胘胠胭胮胰胲胳胶胹胺胾脃脋脖脗脘脜脞脠脤脧脬脰脵脺脼腅",
  "腇腊腌腒腗腠腡腧腨腩腭腯腷膁膄膅膆膋膎膐膖膘膛膞膢膮膲膴膻臃臅臊臋臎臏臕臗臛臝臞臡臤臫臬臰臱臲臵臶臸臹臽臿舀舃舏舓舔舙舚舝舡舢舨舲舴舺艃-艆艋艎艏艑艖艜艠艣艧艭艴艻艽艿芀芁芃芄",
  "芇芉芊芎芑芔芖芘芚芛芠芡芣芤芧-芪芮芰芲芴芷芺芼芾芿苆苐苕苚苠苢苤苨苪苭苯苶苷苽苾茀茁茇茈茊茋茛茝茞茟茡茢茬茭茮茰茳茷茺茼茽荂荃荄荇荍荎荑荓-荗荰荸荽荿莀莂莄莆莍莒莔莕莘莙莛莜",
  "莝莦莧莩莬莭莾莿菀菇菉菏菐菑菔菝菨菪菶菸菹菼萁萆萊萏萑萕萙萯萹葅葇葈葊葍葏葑葒葖葘葙葚葜葠葤葥葧葪葰葳葴葶葸葼葽蒁蒅蒒蒓蒕蒞蒦蒨蒩蒪蒯蒱蒴蒺蒽蒾蓀蓂蓇蓈蓌蓏蓓蓜蓧蓪蓯-蓲蓷蓺蓻",
  "蓽蔂蔃蔇蔌蔎蔐蔜蔞蔢-蔥蔧蔪蔫蔯蔲蔳蔴蔶蔿蕆蕏-蕓蕖蕙蕜-蕢蕤蕫蕯蕹蕺蕻蕽蕿薁薅薆薉薋薌薏薓薘薝薟薠薢薥薧薭薴薶薷薸薼-薿藂藇藊藋藎藘藚藟藠藦藨藭藳藶藼藿蘀蘄蘅蘍蘎蘐蘑蘒蘘蘙蘛",
  "蘞蘡蘧蘩蘶蘸蘺蘼蘽虀虁虂虆虒虓虖-虙虝虠-虤虩虬虯虵虶虷虺蚈蚍蚑蚖蚘蚚蚜蚡蚦蚧蚨蚭蚱蚳蚴蚵蚷蚸蚹蚿蛀蛁蛃蛅蛑蛒蛕蛗蛚蛜蛠蛣蛥蛧蛺蛼蛽蜄蜅蜇蜋蜎蜏蜐蜓蜔蜙蜞蜟蜡蜣蜨蜮蜯蜱蜲蜹蜺蜼",
  "蜽蜾蝀蝃蝅蝍蝘蝝蝡蝤蝥蝯蝱蝲蝻螃-螉螋螌螐螓螕螗螘螙螞螠螣螧螬螭螮螱螵螾螿蟁蟈蟉蟊蟎蟕蟖蟙蟚蟜蟟蟢蟣蟤蟪蟫蟭蟱蟳蟸蟺蟿蠁蠃蠆蠉蠊蠋蠐蠒蠓蠔蠘-蠜蠞蠟蠨蠭蠮蠰蠲蠵蠺蠼衁衃衅衈-衋",
  "衎衑衕衖衘衚衜衟衠衤衩衱衹衻袀袘袚袛袜袟袠袨袪袺袽袾裀裊-裎裑裒裓裛裞裧裯裰裱裵裷褁褆褍褎褏褕褖褘褙褚褜褠褦褧褨褰褱褲褵褹褺褾襀襂襅襆襉襏襒襗襚襛襜襡襢襣襫襮襰襳襵襺-襽覉覍覐",
  "覔覕覛覜覟覠覥覰覴-覷覼觔-觘觥觩觫觭觱觳觶觹觽觿訄訅訇訏訑訒訔訕訞訠訢訤訦訫訬訯訵訷訽訾詀詃詅詇詉詍詎詓詖詗詘詜詝詡詥詧詵詶詷詹詺詻詾詿誀誃誆誋誏誐誒誖誗誙誟誧誩誮誯誳誶誷誻",
  "誾諃諆諈諉諊諑諓諔諕諗諝諟諬諰諴諵諶諼諿謅謆謊謋謑謜謞謟謭謰謷謼譂-譆譈譍譒譓譔譙譞譣譭譶譸譹譼譾讁讄讅讋讍讏讔讕讜讞讟谸谹谽谾豅豇豉豋豏豑豓豔豗豘豙豛豝豣豤豦豨豩豭豳豵豶豻豾",
  "貆貇貋貐貒貓貙貛貜貤貹貺賅賆賉賋賏賕賖賙賝賡賨賬賯賰賲賵賷賸賾賿贁贃贉贒贗贛赥赩赬赮赿趂趄趈趍趐趑趕趞趟趠趦趫趬趯趲趵趷趹趻趼跀跅-跈跊跎跑跔跕跗跙跤跥跧跬跰跱跲跴跽踁踄踅踆踋",
  "踑踔踖踠-踣踦踧踱踳踶-踹踽蹀蹁蹋蹍蹎蹏蹔蹛-蹞蹡蹢蹩蹬蹭蹯蹰蹱蹹蹺蹻躂躃躉躐躒躕躚躛躝躞躢躧躩躭躮躳躵躺躻軀軁軃軄軇軏軑軔軜軨軭軮軰軱軷軹軺輀輂輇輈輏輐輖輗輘輞輠輡輣輥輧輨輬",
  "輭輮輴-輷輺轀轁轃轇轏轑-轕轘轝轞轥辝辠辡辤辥辦辵辶辸达迀迁迆迊迋迍运迒迓迕迠迣迤迨迮迱迵迶迻迾适逄逈逌逘逛逨逩逪逬逭逯逳逴逷逿遃遄遌遛遝遢遦遧遬遰遴遹邅邈邋邌邎邐邕邗邘邙邛邠",
  "邡邢邥邰邲邳邴邶邽邾郃郄郅郇郈郌郒郕郗郘郙郜郝郟郥郫郯郰郴郶郾郿鄀鄄鄅鄆鄈鄍鄐鄔鄖鄗鄘鄚鄜鄞鄠鄢鄣鄥鄧鄩鄮鄯鄱鄴鄶鄷鄹鄺鄼鄽酃酇酈酏酓酗酙酚酛酡酤酧酭酴酹酺酻醁醃醅醆醊醎醑醓醔",
  "醕醘醞醡醦醨醬醭醮醰-醳醶醻醼醽醿釂釃釅釓釔釗釙釚釞釤釥釩釪釬-釱釷釹釻釽鈀鈁鈄-鈇鈉鈊鈌鈐鈒鈓鈖鈘鈜鈝鈣-鈦鈨鈮鈯鈰鈳鈵鈶鈸鈹鈺鈼鈾鉀鉂鉃鉆鉇鉊鉍鉎鉏鉑鉘鉙鉜鉝鉠鉡鉥鉧鉨鉩鉮",
  "鉯鉰鉵-鉹鉻鉼鉽鉿銈銉銊銍銎銒銗銙銟銠銤銥銧銨銫銯銲銶銸銺-銽銿-鋃鋅-鋈鋋-鋎鋐鋓鋕鋗鋘鋙鋜鋝鋟鋠鋡鋣鋥鋧鋨鋬鋮鋰鋹鋻鋿錀錂錈錍錑錔錕錜-錟錡錤錥錧錩錪錳錴錶錷鍇鍈鍉鍐鍑鍒鍕",
  "鍗鍘鍚鍞鍤鍥鍧鍩鍪鍭鍯鍰鍱鍳鍴鍶鍺鍽鍿-鎂鎈鎊鎋鎍鎏鎒鎕鎘鎛鎞鎡鎣鎤鎦鎨鎩鎫鎴鎵鎶鎺鏁鏄-鏇鏉-鏍鏓鏙鏜鏞鏟鏢鏦鏧鏷-鏻鏽鐁鐂鐄鐈鐉鐍鐎鐏鐕鐖鐗鐟鐮鐯鐱-鐴鐻鐽鐿鑃鑅鑈鑊鑌鑕鑙",
  "鑜鑟鑡鑣鑨鑫鑭鑮鑯鑱鑲钃钄镸镹镾閄閈閌閍閎閝閞閟閡閦閩閫閬閴閶閺閽閿闆闈闉闋闐-闓闙闚闝-闠闤闦阝阞阢阤阥阦阬阱阳阷-阺阼阽陁陒陔陖陗陘陡陮陴陻陼陾陿隁-隄隉隑隖隚隝隟隤隥隦隩",
  "隮隯隳隺雊雒雘雚雝雞雟雩雯雱雺霂霃霅霉霚霛霝霡霢霣霨霱霳靁靃靊靎靏靕靗靘靚靛靣靧靪靮靳靶靷靸靻靽靿鞀鞉鞕鞖鞗鞙鞚鞞鞟鞢鞬鞮鞱鞲鞵鞶鞸鞹鞺鞼鞾鞿韁韄韅韇韉韊韌韍韎韐韑韔韗韘韙韛韝",
  "韞韠韡韤韯韱韴韷韸韺頇頊頍頎頔頖頙頜頞頠頣頥頦頫頮頯頰頲頳頵頾顄顇顊顑顒顓顖顗顙顚顢顣顥顦顪顬颫颭颮颰颴颷颸颺颻颿飂飅飈飌飡飣飥飦飧飪飳飶餂餇餈餑餕餖餗餚餛餜餟餢餦餧餫餱-餵",
  "餹-餼饀饁饆饇饈饍饎饔饘饙饛饜饞饟饠馛馝馟馦馰馱馲馵馹馺馽馿駃駉駓駔駙駚駜駞駧駪駫駬駰駴駵駹駽駾騂騃騄騋騌騐騑騖騞騠騢騣騤騧騭騮騳騵騶騸驁驄驇驊驋驌驎驑驔驖驝骪骬骮骯骲骴骵骶骹",
  "骻骾骿髁髃髆髈髎髐髒髕髖髗髛髜髠髤髥髧髩髬髲髳髵髹髺髽髿-鬅鬈鬉鬋-鬎鬐鬒鬖鬙鬛鬜鬠鬦鬫鬭鬳鬴鬵鬷鬹鬺鬽魈魋魌魕魖魗魛魞魡魣魥魦魨魪-魮魳魵魷魸魹魿鮀鮄-鮇鮉鮊鮋鮍鮏鮐鮔鮚鮝鮞",
  "鮦鮧鮩鮬鮰鮱鮲鮷鮸鮻鮼鮾鮿鯁鯇鯈鯎鯐鯗鯘鯝鯟鯥鯧鯪鯫鯯鯳鯷-鯺鯽鯿鰀鰂鰋鰏鰑鰖鰘鰙鰚鰜鰞鰢鰣鰦-鰪鰱鰵鰶鰷鰽鱁鱃鱄鱅鱉鱊鱎鱏鱐鱓鱔鱖鱘鱛-鱟鱣鱨-鱫鱮鱰鱲鱵鱷鱻鳦鳲鳷鳹鴂鴋鴑鴗",
  "鴘鴜鴝鴞鴯鴰鴲鴳鴴鴺鴼鴽鵂鵃鵅鵇鵊鵓鵔鵟鵢鵣鵥鵩鵪鵫鵰鵶鵷鵻鵼鵾鶃鶄鶆鶊鶍鶎鶒鶓鶕-鶘鶡鶪鶬鶮鶱鶵鶹鶼鶿鷃鷇鷉鷊鷔-鷗鷚鷞鷟鷠鷥鷧鷩鷫鷮鷰鷳鷴鷾鸂鸇鸊鸎鸐鸑鸒鸕鸖鸙鸜鸝鹺鹻鹼麀",
  "麂-麅麇麎麏麖麘麛麞麤麨麬麮麯麰麳麴麵黆黈黋黕黟黤黧黬黭黮黰黱黲黵黸黿鼂鼃鼉鼏-鼒鼔鼖鼗鼙鼚鼛鼟鼢鼦鼪鼫鼯鼱鼲鼴鼷鼹鼺鼼鼽鼿齁齃-齇齓齕-齘齚齝齞齨齩齭-齱齳齵齺齽龏-龒龔龖龗",
  "龞龡龢龣龥"]

/-- The characters of GB 2312 (mainland China). -/
def gb2312 : List String := [
  "¤§\u00a8°±×àáèéêìíòó÷ùúüāēěīōūǎǐǒǔǖǘǚǜ\u02c7\u02c9Α-ΡΣ-Ωα-ρσ-ωЁА-яё―‖‘’“”…‰′″※℃№Ⅰ-Ⅻ←-↓∈∏",
  "∑√∝∞∠∥∧-∫∮∴-∷∽≈≌≠≡≤≥≮≯⊙⊥⌒①-⑩⑴-⒛─-╋■□▲△◆◇○◎●★☆♀♂\u3000-〃\u3005〈-】〓-〗ぁ-んァ-ヶ・ㄅ-ㄩ㈠-㈩一丁七万-与丐丑",
  "专-世丘-丞丢两严丧丨个-中丰串临丶丸-主丽举丿乃久乇么义之-乐乒乓乔乖乘乙乜-乡书乩买乱乳乾了予争事-亏云-井亘亚些亟-亢交-亩享-亮亲亳亵人亻亿-仇仉今介仍从仑仓-仙仝仞仟",
  "仡代令以仨仪仫们仰仲仳仵件价任份仿企伉伊伍-休众-伛伞伟传伢伤-伧伪伫伯估伲伴伶伸伺似伽佃但位-佑体何佗-你佣佤佥佧佩佬佯佰佳佴佶佻佼佾使侃侄侈侉例侍侏侑侔侗供依侠侣侥-侪侬侮",
  "侯侵便促俄俅俊俎-俑俗俘俚俜-俟信俣俦俨俩俪俭修俯俱俳俸俺俾倌倍倏倒倔倘候倚倜借倡倥倦倨倩倪倬倭倮债值倾偃假偈偌偎偏偕做停健偬偶偷偻偾偿傀傅傈傍傣傥傧储傩催傲傺傻像僖僚僦僧僬僭",
  "僮僳僵僻儆儇儋儒儡儿兀允元-兆先光克免兑兔兕兖党兜兢入全八-兮兰共关-兹养兼兽冀冁冂内冈冉册再冒冕冖冗写军农冠冢冤冥冫冬冯-决况冶冷冻冼冽净凄准凇凉凋凌减凑凛凝几凡凤凫凭凯凰凳",
  "凵凶凸-函凿-刃分切刈刊刍刎刑划刖-创初删判刨利别刭刮到刳制-刻刽刿-剃削剌前剐剑剔剖剜剞剡剥剧剩剪副割剽剿劁劂劈劐劓力劝-劣动-劭励劲劳劾势勃勇勉勋勐勒勖勘募勤勰勹勺勾勿匀包",
  "匆匈匍匏匐匕化北匙匚匝匠匡匣匦匪匮匹区医匾匿十千卅升-半华协卑卒卓单卖南博卜卞-卤卦卧卩卫卮-危即却卵卷卸卺卿厂厄厅历厉压厌厍厕厘厚厝原厢厣厥厦厨厩厮厶去县叁参又-反发叔取-叙",
  "叛叟叠口-另叨-右叵-叹叻叼叽吁吃各吆合吉吊同-吓吕吖吗君吝-吡吣否-吩含-启吱吲吴吵吸吹吻吼吾呀呃呆呈告呋呐呒-呙呛呜呢呤呦周呱呲味呵-呸呻呼命咀咂咄咆咋和咎咏咐咒咔咕咖咙咚",
  "咛咝咣咤咦-咭咯咱咳咴咸咻咽咿-哂哄哆-哉哌-哕哗哙哚哜-哟哥-哪哭哮哲哳哺哼哽哿唁唆唇唉唏唐唑唔唛唠唢唣唤唧唪唬售-唱唳唷唼唾唿啁啃啄商啉啊啐啕啖啜啡啤-啧啪啬啭啮啵-啸啻啼",
  "啾喀-善喇-喋喏喑喔喘喙喜喝喟喧喱喳喵喷喹喻喽喾嗄嗅嗉嗌嗍嗑-嗔嗖嗜嗝嗟嗡嗣-嗦嗨嗪嗫嗬嗯嗲嗳嗵嗷嗽嗾嘀嘁嘈嘉嘌嘎嘏嘘嘛嘞嘟嘣嘤嘧嘬嘭嘱嘲嘴嘶嘹嘻嘿噌噍噎噔噗噘噙噜噢噤器-噬噱",
  "噶噻噼嚅嚆嚎嚏嚓嚣嚯嚷嚼囊囔囗囚四囝-团囤囫园困囱围囵囹固国图囿圃圄圆圈圉圊圜土圣在圩圪圬-地圳圹场圻圾址坂均坊坌-坑块坚-坡坤坦坨-坫坭坯坳坶坷坻坼垂-垆型垌垒垓垛垠-垤垦垧",
  "垩垫垭垮垲垴垸埂埃埋城埏埒埔埕埘埙埚埝域埠埤埭埯埴埸培基埽堀堂堆堇堋堍堑堕堙堞堠堡堤堪堰堵塄塌塍塑塔塘塞塥填塬塾墀墁境墅墉墒墓墙墚增墟墨墩墼壁壅壑壕壤士壬壮声壳壶壹夂处备复夏夔",
  "夕外夙多夜够夤夥大天太夫夭央夯失头夷-夺夼奁奂奄奇奈奉奋奎奏契奔-奘奚奠奢奥女奴奶奸她好妁-妄妆妇妈妊妍妒妓妖妗妙妞妣妤妥妨-妫妮妯妲妹妻妾姆姊始姐-委姗姘姚姜姝姣姥姨姬姹姻姿",
  "威娃-娉娌娑娓娘娜娟娠娣娥娩娱娲娴娶娼婀婆婉婊婕婚婢婧婪婴-婷婺婿媒媚媛媪媲媳媵媸媾嫁嫂嫉嫌嫒嫔嫖嫘嫜嫠嫡嫣嫦嫩嫫嫱嬉嬖嬗嬲嬴嬷孀子孑孓孔孕字-孝孟孢-学孩孪孬孰孱孳孵孺孽宀宁",
  "它宄宅宇守安宋完宏宓宕宗-实宠-宦宪宫宰害-家宸容宽宾宿寂寄-寇富寐寒寓寝寞察寡寤寥寨寮寰寸-导寿封射将尉尊小少尔尕尖尘尚尜尝尢尤尥尧尬就尴尸-层居屈-屋屎-屑展屙属屠屡屣履屦",
  "屮屯山屹屺屿岁岂岈岌岍岐岑岔岖-岜岢岣岩岫岬岭岱岳岵岷岸岽岿峁峄峋峒峙峡峤峥峦峨峪峭峰峻崂崃崆崇崎崔崖崛崞崤崦崧崩崭崮崴崽崾嵇嵊嵋嵌嵘嵛嵝嵩嵫嵬嵯嵴嶂嶙嶝嶷巅巍巛川州巡巢工-巩",
  "巫差巯己-巴巷巽巾币市布帅帆师希帏帐帑帔帕帖帘-帝带帧席帮帱帷常帻帼帽幂幄幅幌幔幕幛幞幡幢干平年并幸幺-幽广庀庄庆庇床庋序庐庑库-店庙庚府庞废庠庥度座庭庳庵-庹庾廉廊廑廒廓廖廛",
  "廨廪廴延廷建廾-弄弈弊弋式弑弓引弗弘弛弟张弥弦弧弩弪弭弯弱弹强弼彀彐归当录-彘彝彡形彤彦彩彪彬彭彰影彳彷役彻彼往征徂径待徇-後徐徒徕得徘徙徜御徨循徭微徵德徼徽心-忆忉忌忍忏-忒",
  "忖-忙忝忠忡忤忧忪快忭忮忱念忸忻忽-怆怊怍怎怏怒怔怕怖怙怛怜思怠怡急-怫怯怵总怼怿恁恂恃恋恍恐恒恕恙恚恝恢恣恤恧-恭息恰恳恶恸-恽恿悃悄悉悌悍悒悔悖悚悛悝悟悠患悦您悫悬悭悯悱悲",
  "悴悸悻悼情惆惊惋惑惕惘惚惜惝惟惠惦-惩惫-惰想惴惶惹惺愀愁愆愈愉愍愎意愕愚感愠愣愤愦愧愫愿慈慊慌慎慑慕慝慢慧慨慰慵慷憋憎憔憝憧憨憩憬憷憾懂懈懊懋懑懒懔懦懵懿戆戈戊-戒戕-战戚戛",
  "戟戡戢戤戥截戬戮戳戴户戽-扁扃扇扈扉手-扎扑-扔托扛扣扦执扩-扰扳扶批扼找承技抄抉把抑抒抓投-折抚抛抟-抢护报抨披抬抱抵抹抻押抽抿拂拄-拊拌拍拎拐拒拓拔拖-拜拟拢拣拥-择括-拯",
  "拱拳拴拶拷拼-拿持挂指挈按挎挑挖挚挛挝-挥挨挪挫振挲挹挺挽捂捃捅捆捉捋-捐捕捞损捡换捣捧捩捭据捱捶捷捺捻掀掂掇-掊掌掎掏掐排掖掘掠探掣接控-措掬掭掮掰掳掴掷掸掺掼掾揄揆揉揍-提",
  "插揖揞揠握揣揩揪揭揲援揶揸揽揿-搂搅搋搌搏搐搓搔搛搜搞搠搡搦搪搬搭搴携搽搿摁摄-摈摊摒摔摘摞摧摩摭摸摹摺撂撄撅撇撑撒撕撖撙撞撤撩撬播撮撰撵撷撸撺撼擀擂擅操擎擐擒擗擘擞擢擤擦攀攉",
  "攒攘攥攫攮支攴攵收攸改攻放政故效敉敌敏救敕敖教敛敝敞敢散敦敫敬数敲整敷文斋斌斐斑斓斗料斛斜斟斡斤斥斧斩斫断斯新方於施旁旃-旆旋旌旎族旒旖旗无既日-早旬-旱时旷旺昀昂昃昆昊昌明昏",
  "易昔昕昙昝星映春昧昨昭是昱昴昵昶昼显晁晃晋晌晏晒-晗晚晟晡晤晦晨普景晰晴晶晷智晾暂暄暇暌暑暖暗暝暧暨暮暴暹暾曙曛曜曝曦曩曰曲曳更曷曹曼曾替最月-朋服朐朔朕朗望朝期朦木未-札术朱",
  "朴朵机朽杀杂权杆杈杉杌李-村杓杖杜杞-条来杨杩杪杭杯杰杲杳杵杷杼松板极构枇枉枋析枕林枘枚果枝枞枢枣枥枧枨枪枫枭枯枰枳枵-枸柁柃柄柏-柔柘柙柚柜柝柞柠柢查柩柬柯柰柱柳柴柽柿栀栅",
  "标-栌栎栏树栓栖栗栝校栩株栲栳样核根格栽栾桀-框案桉桊桌桎桐桑桓桔桕桠-桩桫桴桶桷梁梃梅梆梏梓梗梢梦梧梨梭梯械梳梵检棂棉棋棍棒棕棘棚棠棣森棰棱棵棹棺棼椁椅椋植椎椐椒椟椠椤椭椰椴",
  "椹椽椿楂楔楗楚楝楞楠楣楦楫楮楱楷楸楹楼榀概榄榆-榉榍榔榕榘榛榜榧榨榫榭榱榴榷榻槁槊槌槎槐槔槛槟槠槭槲槽槿樊樗樘樟模樨横樯樱樵樽樾橄橇橐橘橙橛橡橥橱橹橼檀檄檎檐檑檗檠檩檫檬欠-欤",
  "欧欲欷欹欺款歃歆歇歉歌歙止-歧歪歹死歼殁-殄殆殇殉殊残殍殒殓殖殚殛殡殪殳殴段殷殿毁毂毅毋母每毒-毗毙毛毡毪毫毯毳毵毹毽氅氆氇氍氏氐民氓-氖氘-氛氟氡氢氤氦-氪氮氯氰氲水氵永氽汀",
  "汁求汆汇汉汊汐汔汕汗汛-污汤汨汩汪汰汲汴汶汹汽汾沁沂沃沅沆沈沉沌沏沐沓沔沙沛沟没沣-沧沩沪沫沭沮沱沲河沸油治-沿泄泅泉泊泌泐泓-泗泛泞泠-泣泥注泪泫泮-泱泳泵-泸泺-泾洁洄洇洋",
  "洌洎洒洗洙洚洛洞津洧洪洫洮洱洲洳洵洹活-派流浃浅-浈浊测浍济浏浑-浔浙浚浜浞浠浣浦浩浪浮浯浴海浸浼涂涅消涉涌涎涑涓涔涕涛涝-涡涣涤润-涫涮涯液涵涸涿淀淄-淇淋淌淑淖淘淙淝淞淠淡",
  "淤淦淫淬淮深淳混淹添淼清渊渌渍渎渐渑渔渖渗渚渝渠渡渣渤渥温渫渭港渲渴游渺湃湄湍湎湓湔湖湘湛湟湫湮湾湿溃溅溆溉溏源溘溜溟溢溥溧溪溯溱溲溴溶溷溺溻溽滁滂滇滋滏滑滓滔滕滗滚滞-滢滤滥",
  "滦滨滩滴滹漂漆漉漏漓演漕漠漤漩漪漫漭漯漱漳漶漾潆潇潋潍潘潜潞潢潦潭潮潲潴潸潺潼澄澈澉澌澍澎澜澡澧澳澶澹激濂濉濑濒濞濠濡濮濯瀑瀚瀛瀣瀵瀹灌灏灞火灬灭灯灰灵灶灸灼灾灿炀炅炉炊炎炒炔",
  "炕炖炙炜炝炫-炯炱炳炷炸点炻炼炽烀-烃烈烊烘烙烛烟烤烦-烩烫烬热烯烷烹烽焉焊焐焓焕焖焘焙焚焦焯焰焱然煅煊煌煎煜煞煤煦照煨煮煲煳煸煺煽熄熊熏熔熘熙熟熠熨熬熳熵熹燃燎燔燕燠燥燧燮燹",
  "爆爝爨爪爬爰爱爵-爹爻爽爿片版牌牍牒牖牙牛牝牟牡牢牦牧物牮牯牲牵特牺牾-犁犄犊犋犍犏犒犟犬犭犯犰犴状-犹狁-狄狈狍狎狐狒狗狙狞狠狡狨狩独-狴狷狸狺狻狼猁猃猊猎猓猕猖猗猛-猞猡猢",
  "猥猩-猬献猱猴猷猸猹猾猿獍獐獒獗獠獬獭獯獾玄率玉王玎玑玖玛玟玢玩玫玮环现玲玳玷玺玻珀珂珈珉珊珍珏珐珑珙珞珠珥珧珩班珲球琅理琉琊琏琐琚琛琢琥琦琨琪琬琮琰琳-琶琼瑁瑕瑗瑙-瑜瑞瑟瑭",
  "瑰瑶瑷瑾璀璁璃璇璋璎璐璜璞璧璨璩璺瓒瓜瓞瓠瓢瓣瓤瓦瓮瓯瓴瓶瓷瓿甄甍甏甑甓甘甙甚甜生甥用甩甫甬甭甯-申电男甸町画甾畀畅畈畋界畎畏畔留-畜略畦番畲畴畸畹畿疃疆疋疏疑疒疔疖疗疙疚疝疟",
  "疠疡疣疤疥疫疬疮-疵疸疹疼疽疾痂-病症-痊痍痒痔痕痖痘痛痞痢痣痤痦痧痨痪痫痰痱痴痹痼痿瘀瘁瘃瘅瘊瘌瘐瘕瘗瘘瘙瘛瘟瘠瘢瘤瘥瘦瘩瘪瘫瘭瘰瘳瘴瘵瘸瘼瘾瘿癀癃癌癍癔癖癜癞癣癫癯癸登白百",
  "皂的皆皇皈皋皎皑皓皖皙皤皮皱皲皴皿盂盅盆盈益盍-盒盔盖盗盘盛盟盥目盯盱盲直相盹盼盾省眄眇眈眉看眍眙眚真眠眢眦眨眩眭眯眵-眸眺眼着睁睃睇睐睑睚睛睡睢督睥睦睨睫睬睹睽-瞀瞄瞅瞌瞍瞎",
  "瞑瞒瞟瞠瞢瞥瞧瞩瞪瞬瞰瞳瞵瞻瞽瞿矍矗矛矜矢矣知矧矩矫-矮石矶矸矽-砂砉砌砍砑砒研砖砗砘砚砜砝砟砣砥砦砧砩砬砭砰破砷-砼砾础硅硇硌硎硐硒硕硖硗硝硪-确硷硼碇碉碌碍碎碑碓碗碘碚碛碜",
  "碟碡碣碥碧碰-碴碹碾磁磅磉磊磋磐磔磕磙磨磬磲磴磷磺礁礅礓礞礤礴示礻礼社祀祁祆祈祉祓祖祗祚-祠祢祥祧票祭祯祷祸祺禀禁禄禅禊福禚禧禳禹禺离禽禾秀私秃秆秉秋种科秒秕秘租秣秤秦秧秩秫秭",
  "积称秸移秽稀稂稃稆程稍税稔稗稚稞稠稣稳稷稹稻稼稽稿穆穑穗穰穴究-空穿窀突窃窄窆窈窍窑窒窕-窘窜窝窟窠窥窦窨窬窭窳窿立竖站竞竟章竣童竦竭端竹竺竽竿笃笄笆笈笊笋笏笑笔笕笙笛笞笠笤笥",
  "符笨笪笫第笮笱笳笸笺笼笾筅筇等筋筌筏-筒答策筘筚筛筝筠筢筮筱筲筵筷筹筻签简箅箍箐箔箕算箜箝管箢箦-箭箱箴箸篁篆篇篌篑篓篙篚篝篡篥篦篪篮篱篷篼篾簇簋簌簏簖簟簦簧簪簸簿籀籁籍米籴类",
  "籼籽粉粑粒粕粗粘粜-粟粢粤粥粪粮粱粲粳粹粼粽精糁糅糇糈糊糌糍糕糖糗糙糜糟糠糨糯糸系紊素索紧紫累絮絷綦綮縻繁繇纂纛纟-纭纯-纳纵-纺纽-绕绗-绣绥-绫续-绸绺-缉缋-缏缑-缝",
  "缟-缶缸缺罂罄罅罐网罔罕罗罘罚罟罡罢罨罩罪置罱署罴罹罾羁羊羌美羔羚羝羞羟羡群羧羯羰羲羸羹羼羽羿翁翅翊翌翎翔翕翘翟翠翡翥翦翩翮翰翱翳翻翼耀老考-耆耋而耍耐耒耔-耙耜耠耢耥-耪耱耳",
  "耵-耸耻耽耿聂聃聆聊-聍聒联聘聚聩聪聱聿肀肃肄肆肇肉肋肌肓肖肘肚-肝肟-肢肤肥肩肪肫肭肮肯肱育肴肷肺肼-胄胆背胍胎胖胗胙-胞胡胤胥胧-胭胯-胴胶胸胺胼能脂脆脉脊脍-脔脖脘脚脞脬",
  "脯脱脲脶脸脾腆腈腊腋腌腐腑腓腔腕腙腚腠腥腧腩腭腮腰腱腴腹-膀膂膈膊膏膑膘膛膜膝膣膦膨膪膳膺膻臀-臃臆臊臌臣臧自臬臭至致臻臼臾舀舁舂舄舅舆舌舍舐舒舔舛舜舞舟舡舢舣舨航-舭舯舰舱",
  "舳-船舻舾艄艇艉艋艏艘艚艟艨艮良艰色艳艴艹艺艽艾艿节芄芈芊芋芍芎芏芑芒芗芘芙芜芝芟芡芤芥芦芨-花芳芴芷芸芹芽芾苁苄苇苈苊-苏苑-苕苗苘苛苜苞-苡苣-苦苫苯英苴苷苹苻茁-茉茌茎茏",
  "茑茔茕茗茚茛茜茧茨茫茬茭茯茱茳-茶茸茹茺茼荀荃荆荇草荏-荒荔荚荛荜荞-荡荣-药荷荸荻荼荽莅莆莉莎莒莓莘莛莜莞莠莨-莫莰-莴莶-莺莼莽菀菁菅菇菊菌菏菔菖菘菜菝菟菠菡菥菩菪菰菱菲菸",
  "菹菽萁萃萄萆萋-萏萑萘萜萝萤-萨萱萸萼落葆葑著葙-葜葡董葩葫葬葭葱葳葵葶葸葺蒂蒇蒈蒉蒋蒌蒎蒗蒙蒜蒡蒯蒲蒴蒸蒹蒺蒽蒿蓁蓄蓉蓊蓍蓐蓑蓓蓖蓝蓟蓠蓣蓥蓦蓬蓰蓼蓿蔌蔑蔓蔗蔚蔟蔡蔫蔬蔷-蔽",
  "蕃蕈蕉蕊蕖蕙蕞蕤蕨蕲蕴蕹蕺蕻蕾薄薅薇薏薛薜薤薨薪薮薯薰薷薹藁藉藏藐藓藕藜藤藩藻藿蘅蘑蘖蘧蘩蘸蘼虍-虑虔虚虞虢虫虬虮虱虹-蚂蚊-蚍蚓蚕蚜蚝蚣蚤蚧-蚪蚬蚯蚰蚱蚴蚵蚶蚺蛀蛄蛆蛇蛉蛊蛋",
  "蛎-蛑蛔蛘蛙蛛蛞蛟蛤蛩蛭蛮蛰-蛴蛸蛹蛾蜀蜂蜃蜇-蜊蜍蜒蜓蜕蜗蜘蜚蜜蜞蜡蜢蜣蜥蜩蜮蜱蜴蜷蜻蜾蜿蝇蝈蝉蝌蝎蝓蝗蝙蝠蝣蝤蝥蝮蝰蝴蝶蝻-蝾螂螃螅螈螋融螓螗螟螨螫螬螭螯螳螵螺螽蟀蟆蟊蟋蟑",
  "蟒蟓蟛蟠蟥蟪蟮蟹蟾蠃蠊蠓蠕蠖蠛蠡蠢蠲蠹蠼血衄衅行衍衔街衙衡-补表衩衫衬衮衰衲衷衽衾衿袁袂袄袅袈袋袍袒袖袜袢袤被袭袱袷袼裁裂装裆裉裎裒裔裕裘裙裟裢-裥裨裰裱裳裴裸裹裼裾褂褊褐褒褓",
  "褙褚褛褡褥褪褫褰褴褶襁襄襞襟襦襻西要覃覆见观规-觌觎-角觖觚觜觞解觥触觫觯觳言訇訾詈詹誉誊誓謇謦警譬讠-讫训-记讲-论讼-识诈-诏译-诩诫-谈谊-谝谟-谷豁豆豇豉豌豕豚象豢豪豫",
  "豳豸豹豺貂貅貉貊貌貔貘贝贞负贡-赐赓-赖赘-赞赠-赤赦赧赫赭走赳-起趁趄超越趋趑趔趟趣趱足趴趵趸趺趼趾趿跃跄跆跋跌跎跏跑跖跗跚跛距跞跟跣跤跨跪跫跬路跳践跷-跻跽踅踉踊踌踏踔踝踞",
  "踟踢踣踩踪踬踮踯踱踵踹踺踽蹀蹁蹂蹄蹇-蹋蹑蹒蹙蹦蹩蹬蹭蹯蹰蹲蹴蹶蹼蹿躁躅躇躏躐躔躜躞身躬躯躲躺軎车-轩轫-轿辁-辋辍-辑输-辜辞辟辣辨辩辫辰辱辶边辽达迁迂迄迅过迈迎运近迓返迕还",
  "这进-迟迢迤迥迦迨-迫迭迮述迳迷迸迹追退-逆选逊逋逍透-递途逖逗通逛逝-逢逦逭逮逯逵逶逸逻逼逾遁遂遄遇遍遏-道遗遘遛遢遣遥遨遭遮遴遵遽避邀邂邃邈邋邑邓邕邗邙邛邝邡邢那邦邪邬",
  "邮-邱邳-邶邸-邻邾郁郄郅郇郊郎-郑郓郗郛郜郝郡郢郦郧部郫郭郯郴郸都郾鄂鄄鄙鄞鄢鄣鄯鄱鄹酃酆酉-酐酒酗酚酝酞酡-酥酩酪酬酮-酲酴-酹酽酾酿醅醇醉醋醌醍醐醑醒醚醛醢醣醪醭醮醯醴醵",
  "醺采釉释里-量金釜鉴銎銮鋈錾鍪鎏鏊鏖鐾鑫钅-钐钒-钕钗钙-铆铈-铎铐铑铒铕-铙铛-铥铧-铺铼-锛锝锞锟锡-锦锨-锲锴-锼锾-镂镄-镇镉镊镌-镔镖-镙镛-镟镡-镭镯-镳镶长门-闫",
  "闭-闾阀-阆阈-阒阔-阗阙阚阜阝队阡阢阪阮阱-阶阻阼阽阿陀陂附-陉陋陌降限陔陕陛陟陡院除陧-陪陬陲陴-陷隅隆隈隋隍随隐隔隗隘隙障隧隰隳隶隹隼隽难雀雁雄-雇雉雌-雏雒雕雠雨雩雪雯",
  "雳零雷雹雾需霁霄霆-霉霍霎霏霓霖霜霞霪霭霰露霸霹霾青靓靖静靛非靠靡面靥革靳靴靶靼鞅鞋鞍鞑鞒鞔鞘鞠鞣鞫鞭鞯鞲鞴韦韧韩-韭音韵韶页-颊颌颍颏颐频颓颔颖颗题颚-颢颤-颧风飑飒飓飕飘飙",
  "飚飞食飧飨餍餐餮饔饕饣饥饧-饲饴-饷饺饼饽饿馀馁馄-馈馊馋馍馏-香馥馨马-驱驳-骂骄-骈骊骋验骏-骓骖骗骘骚-骥骧骨骰骱骶骷骸骺骼髀髁髂髅髋髌髑髓高髟髡髦髫髭髯髹髻鬃鬈鬏鬓鬟鬣",
  "鬯鬲鬻鬼魁-魅魇魈魉魍魏魑魔鱼鱿鲁鲂鲅-鲈鲋鲍鲎鲐鲑鲒鲔鲕鲚鲛鲜鲞-鲩鲫鲭鲮鲰-鲸鲺-鲽鳃-鳇鳊-鳐鳓-鳙鳜-鳟鳢鸟-鸣鸥鸦鸨-鸭鸯鸱鸲鸳鸵-鸺鸽鸾鸿鹁-鹌鹎鹏鹑鹕鹗鹘鹚鹛鹜鹞",
  "鹣鹤鹦-鹭鹰鹱鹳鹾鹿麂麇麈麋麒麓麝麟麦麴麸麻麽麾黄黉黍黎黏黑黔默黛黜黝黟黠黢黥黧黩黪黯黹黻黼黾鼋鼍鼎鼐鼓鼗鼙鼠鼢鼬鼯鼷鼹鼻鼽鼾齄齐齑齿龀龃-龌龙龚龛龟龠！-～￠￡\uffe3￥"]

/-- The characters of Big5 (Taiwan). -/
def big5 : List String := [
  "¢£¥§°±·×÷\u02c7\u02c9\u02ca\u02cb\u02cd\u02d9Α-ΡΣ-Ωα-ρσ-ωЁД-МУ-яё–—‘’“”•‥…′‵※‾℃℅℉Ⅰ-Ⅹ←-↓",
  "↖-↙√∞∟∠∣∥∩∪∫∮∴∵∼≒≠≡≦≧⊥⊿①-⑩⑴-⑽─│┌┐└┘├┤┬┴┼═╞╡╪╭-╴▁-▏▔▕■□▲△▼▽◆◇○◎●◢-◥★☆☉♀♁♂\u3000-〃\u3005",
  "〈-〒〔〕〝〞〡-〩ぁ-ん\u309d\u309eァ-ヶ\u30feㄅ-ㄩ㊣㎎㎏㎜㎝㎞㎡㏄㏎㏑㏒㏕一丁七万-丑且丕世丘丙丞丟並丫中丮丰-丳丸丹主丼乂乃久乇么之乍乎乏乒乓乖乘乙",
  "乜-也乩乳乾乿亂亃亄了予事-于云-井亙些亞亟亡亢交亥亦亨享-亮亳亶亹人什-仄仆-介仍仔-仚仜-仟仡代令以仨仩仰-价任份仿-伂伄伅伈-伋伍-伕优伙伝伢伬伭伯估伳伴伶伸伺-伿佁佃",
  "但-佉佌-佤佧佩-佬佮佯佰佳-侉例侍侏-侒侔-侘侚-侞侮侯侲侳侵侶侷侹侺侻便-俅俇俉俊俋俍-俑俓俔俖-信俬修俯俱俳-俸俺俾倀倅倆倇倉個-倏們-倜倞-倣倥-倭倯倰倱倳倵倷值偀偁偃",
  "偅-偏偑偓偕偗做-健偨-偫偭-偰偲-偷偺偽傀傂傃傅傇傋-傎傑傒傔傕傖傘-傞傢傣催-傸傺傻傽傾傿僁僂僄-僋僎像僑僓-僗僚僛僝僠僣-僪僬-僱僳僵僶僸價僻僽-儀儂-儌儐-儕儗儘儚儜",
  "償-儢儤儥儦儩優儭儮儰-儵儷-儽儿兀允元-光克兌免兒兔兕兗兙-兟兡兢兣入內全兩八-兮共兵-典兼冀冇冉冊再冏冑-冕冗冘冞冠冢冤冥冪冬冰冱冶冷冹冼冽冾凄凅准凈凊-凎凐凔凗凘凜凝凞几",
  "凡凰凱凳凵凶凸凹出函刀刁刃分-刊刌刎刐-刓刖列刜初刞刡判別刨利刪刮到-刳刵-券刺刻剁剃剄剆則剉-剎剒剔剕剖剚-剟剡剢剩-副割剴創剷剸剺-剽剿-劄劇-劍劑劓劖-劙力功加劣劦助-劮",
  "劻劼劾勀-勃勇勉勍勒勓動-務勛勝勞募勢勣勤勦勩勫勯勰勱勳勴勵勷勸勺勻勼勾勿包匆匈-匋匍-匒匕化北匙匚匜匝匟-匣匪匭匯匰匱匴匷匹匼-十千卄卅升-半卌卍卑-協南博卜卞占卡卣卦卬",
  "卮-即卵卷卸卹卻卼卿厂厄厊厎厏厒厔厖-厚厜-原厤厥厧厬厭厲厴厹去參又-友反叔取受叛叟叡-另叨-右叵司叻叼吁吃各吆-吒吘吙君-吠吤-吮吰吱吳吵-吹吻-吾呀-呃呅-呈告呎呏呔呠-周",
  "呫呬呯-呸呺-咂咄咆咇咈咋-咎咐咑咒咕咖咘咚咠咡咢咥-咱咳咶咷咸咺-哉哎哏哖哞哠員哢哤-哫哭哮哱哲哳哷哸哺-哽哿唁唃-唌唎-唒唔唗唚唦唧唪唬-唹唻唼唾啀啁啃-商啈啊啋啍-啒啕啖",
  "啗啜啞啟啡-啦啪啵啶啷啻-善喇-喏喑-喕喘喙喚喜喝喟喡-喨喪-單喱喲喳喵喻喿嗀嗂-嗖嗙-嗝嗟嗡-嗩嗯嗲嗶嗷嗹嗺嗼-嘂嘄嘆嘈嘉嘌-嘐嘒-嘗嘛嘜嘝嘟嘧嘩嘪嘬嘮嘯嘰嘲-嘶嘸-嘻嘽-噂",
  "噅噆噈噉噊噌噎噓噗-噚噞噠噢-噦器-噴噶-噹噾-嚇嚌-嚐嚓嚕嚗-嚚嚜嚝嚥-嚨嚪-嚮嚲-嚷嚼嚽嚾囀-囃囅囆囈-囍囑囓囔囗囚四囝-囡囤囥囧囪囫囮困囷囹固囿圁-圄圇-圍園圓圔圖團圚圛",
  "圜圞土圠圢圣在圩圪圬-地圳圴圻圾址坁坅均坉-坒坡坢坤坦坨-坫坭坯-坷坻坼坽垀垂垃型垌垏垓垔垕垗-垛垝-垠垢-垥垮垵垶垸垹垺垼垽垿埁埂埃埆埇埋埌城埏埐埒埔埕埜域-埥埧埩埬埭埮",
  "埰-埽堀堁堂堄-堎堐堔堙堛-堞堠堡堣堤堥堧-堪堬-堹堻堽堿塈-塏塑-塕塗-塛塝塞塢-塥塨填塭塯塱塴塵塶塹-境墅-墋墎-墑墓墔墘墜-墡墣墥墦墨墩墫墬墮墯墱墳墺墼-墿壁壂壅-壉壎壏",
  "壑-壖壘-壛壝壞壟壢壣壤壧壨壩士壬壯壴壹壺壼-壿夃夆夌-夏夒夔-夗夙多夜夠夢夤夥大天-夯失夷夸夼夾奀奄奅奇-奊奎-契奓奔奕套奘奚奜奠奡奢奧奩奪奫奭奮奰-奴奶-她奻-妅妊妍-妐妒",
  "妓妖-妙妝妞妠-妨妮妯妱-妶妹-妾姀姁姃姅-姈姊-委姖姘姚-姞姠姡姣-姦姨姩姪姬姭姮姱-姷姺-威娃娉娊娌娏娑娓娕-娙娛娜娞娟娠娣娥娩娭娮娳娵-娹娼娾婀-婄婆-婊婌婍婐-婓婕-婘",
  "婚-婠婢婤-婧婩婪婬婭婰婷婸婺-婽婿媃媄媊媋媌媎媏媐媒-媕媗媚-媟媢媥媦媧媩媬媮-嫂嫄嫆-嫍嫕-嫣嫥嫦嫨-嫮嫳-嫹嫻嫽嫿嬁嬂嬃嬅嬇嬈嬉嬋嬌嬏嬐嬓嬔嬖嬗嬙嬚嬛嬝嬞嬠嬡嬣-嬨嬪",
  "嬬-嬰嬲嬴嬸嬼-孀孃孅孇孈孋-孎子孑孓-存孚-孝孟孢-孥孩孫孬孮孰-孳孵孷學孺孻孽孿宁它宄宅宇守安宋完宎宏宒宓宕宗-宜客-宨宬宭宮宰害-家宸容宿-寂寄-寇寊-寎寐-寔寖寘寙",
  "寞-寬寮-寲寵寶寸寺封尃射將-尒尕尖尚尟尢尤尥尨尪尬尰就尳尷-尼尾-屁屄-屈屋-屑屔展屖屘屙屜屝屠屢-履屧-屪屬-屯山屳屴屹-屼屾岆岈-岍岏-岕岝岟-岱岳岵-岸峆-峌峎峏峐峒峓",
  "峔峖-峛峞峟峨峪峬峭峮峰峱峴島-峹峻峽峿崀崁崆崇崋-崏崑崒崔崖崗崙崚崛崝-崠崢-崩崮崰-崺崼崽崿-嵃嵅嵇嵉-嵌嵎嵐嵑嵒嵕嵙嵞嵢嵣嵥嵧嵨嵩嵫嵬嵯嵱嵲嵷嵹嵺嵼-嶂嶄嶆-嶊嶍嶒-嶕嶗",
  "嶙嶚嶜-嶢嶧-嶪嶬-嶲嶴嶵嶷嶸嶺嶼嶽巀巂巃巆巇巉巋巍巏巑巒巔巕巖巘川-巢工-巨巫差巰-巴巷巹巽巾巿市布帄帆帊希帎帑帔-帛帝帟-帥帨帩師席帳帴帶帷常帽帾幀幁幃幄幅幊-幏幓幔幕幗幘",
  "幙幛幜幝幟-幣幦-幰干-并幸幹幻-幾庀庂庄庇-庍序底庖店庚庛府庠庢-庨庪-庮庰-庹庾廁廂廄-廌廎廑-廣廥-廩廬廮廯廱廲廳延廷建廾廿弁异弄弅弇弈弊弋式弒-引弗弘弚弛弝弟弢弣弤",
  "弦-弩弭弮弰弱弳張-弸弼彀彃彄彆彈-彌彎彏彔彖-彙彝形彤彥彧彩-彭彯彰影彳彴彶-役彼-徂待-後徐徑徒徖-徙徛徜從-御徥徦徨-徯徲徵徶德徹徻-忁心必忉忌忍忏-忒忔-忙忝忞忠忡忣忤",
  "忥忨忪快忭忮忯忱忳忴念忷忸忺忻忽忿怀怉-怗怙-怞怠怡怢怤-怯怲-怵怷怹恀-恇恉恌恍恐恓恔恕恘-恛恝恞恟恢-恰恲恿悀悁悃-悊悌悍悎悐悒悔-悗悚-悝悟悠悢患您悰悱悲悴-惁惃-惏惑惓",
  "惔惕惘-惝惟-惢惤惦惰-惼惾-愁愃-愆愈-愋愍-愐愒-愖愘愚-愝感愣愧愨愩愫愬愮愯愲愴愶愷愻愾-慁慄-慏慒-慖慘慚慛慝慞慟慡慢慣慥-慨慪慫慬慮慰-慷慹慺慼慾憀憂憃憉-憎憐-憔憖",
  "憚憛憝憟憡憢憤憧-憶憸憺憼憾憿懁懂懃懅-懍懖懘懞懟懠懣-懫懭懮懰懱懲懵-戁戃戄戇-戊戌戍戎成我戒戔戕或戙戚戛戟-戥戧戩截戫戭戮戰戲戳戴戶戺戽-扃扆-手才扎扐-扔托-扜扞扠-扦",
  "扭-扴扶扷批-抁抃抄抆-把抌抎抏抑-折抨-抱抳-抶抸抹抻-抿拂拄拆-拔拖-拜拫-挃指挈按挋-挑挓-挖挨-挭振挲挳挴挶挸-挾捀-捑捔-捚捥捧捨捩捫捭-捲捵-捸捺-捽掀-掅掇-掊",
  "掌-排掔掖-掙掛-接控-掱掽掾揀揂-提插揓揕-揝揟揠握揣揤揥揧-揫揭-揶揹搆搉-搐搒-搘搚搛搜搞-搨搪-搰搳-搷搹搽-摁摃摋摍摎摐-摔摘摙摛-摡摥-摩摫-摰摲-摻摽摿撂撅撇-撌",
  "撏撐撒撓撕-撚撜-撠撢-撦撩撫-撮撰-撳撻-撿擁-擅擇擉擊擋操-擐擒擔擖-擛擠擢擣擤擦擨擩擫擬擭擯-擴擷擸擺-攁攃攄攆攇攉攌-攐攓-攙攛攜攝攠-攦攩-支攲攳收-改攻攽放政敁敃故",
  "敆效敉敊敏救敓-教敜敝敞敢-敨敪敬敯敲-敼敿-斄文斌斐斑斒斔-斗料斛-斢斤斥斧斨斪斫斬斮斯新斲斳斶-方斻於施斿旁-旆旋-旐旒旓旖旗旚旛旝旞旟旡既日旦旨早旬-旵旺-旽昀昂-昕昜昝",
  "星-昢昤-昨昫昭昮是昱-昶昹昺晁時晃晅晇晉晊晌晏晑晒晙-晟晡晢晤晥晦晨晪晬普-晲晴晶-晼晾暀暄暆-暍暐暑暔-暙暝暟-暢暨-暫暮-暲暴暵暷-暻暽暾曀曄曆-曌曏曒曖曘-曞曠曣曤曦曨",
  "曩曫-曮曰曲曳更曶-曹曼曾-朁會朄朅月-朋服朏朐朒-朕朗朘望朝期-朣朦朧木未-朮朱朳朴朵朸-朿杅-杉杋-村杓杕杖杗杙杚杜-杠杪杬杭杯-板极枃-枇枉枋-枎析-枕林-枚果枝枟枮枯枰",
  "枲-枻柀-柆柈-柔柘-柟柢-柧柩-柸柺柼柿栒栓栔栖栗栘栚栜栝栟栠校栥栦栨-栫栭栮栯栱-栵核-栽桀-框案桉桋-桑桓桔桫桭桮桯桱桲桴-桹桻-梃梅梆梇梉-梌梏-梔梖梗梛梜條梟-梤",
  "梧-梵棄棆-棉棋-棎棐-棘棚棜-棡棣棤棦-棬森-棽椄-椈椊-椕椗椥椪椯椰椲-椵椷椸椹椻椼椽椿-楂楄楅楈-楌楎楏楑-楔楖-楠楢楣楥楦楨-楱楴-楻概榃榆榍榎榐榑榓-榗榙-榜榞榠榡",
  "榣-榱榳-榷榹榻-榿槁-槄槆槉-槐槓槔槙槢槤-槨槫-槮槱-槴槶槷槸槻-樂樄-樊樍樏樑樓-標樛樝-模樣樥-樨樲樴樵樸-橁橄橆-橉橋橍-橑橔橕橖橘-橛橝-橢橤橦-橫橭橯橶橾-檁檃檄",
  "檅檇檉檌檍檎檐-檗檚檛檜檞-檦檨檬-檯檳檴檶-檻檽櫂櫃櫅櫆櫇櫋櫌櫍櫏櫐櫑櫓櫙-櫡櫥櫧櫨櫪櫫櫬櫮-櫱櫳櫸-櫼欀欂欃欄欈-欋欏-欓欖-欚欞欠次欣欥欨欬欭欯欱-欴欶-欿歁歂歃歅-歎歐",
  "歑歔歕歖歙歛歜歞-歧歪歭歲歶-歹死歾歿殀殂殃殄殆殈殉殊殌-殏殑殔-殙殛殞殟殠殢-殧殪殫殭-殰殲殳段殶殷殺殼殽殿毀毃-母每毐毒毓比毖毗毘毚毛毞毠毢毣毤毦毧毨毫毬毯毰毲毳毷毸毹",
  "毻-氆氈氉氋氌氍氏氐民氓-氖氘-氛氝氟氠氡氣-氨氪氫氬氮氯氰氳水氶永氻氾-汃汆汊-汐汒汔汕汗汙汛-污汥-汫汭汯-汴汶汸決汻汽汾沀-沐沒-沖沘-沝沫-沮沰沱河沴沶-泇泉泊泌泍",
  "泏-泗泙-泞泠-泣泥泧注泩泫-泳泵泹洀洁洃洄洇-洒洖-洛洝-洠洢津洧-浂浘浙浚浞-浪浬-浰浴-涀涂-涎涐-涕涗涘涪涫涬涮涯液-涵涷涸涺-淀淂淄-淍淏-淦淨-混淹-淽渀渃清渙-渝",
  "渟-渨渫-渶游-湁湃-湇湉湊湋湍湎湑-湖湘湚-湩湫湮湯湱-湴湷湸湹溈溉溍-源溒溓溔準-溙溛-溧溪溫溮-溴溶溷溹溺溼-滖滘滜滫-滯滱滲滴-滹滻-漃漅-漊漍漎漏漒-漕漘漙漚漜漞-漣",
  "漥漦漧漩-漳漵-漼漾-潁潃潎-潕潗潘潚潛潝-潤潦潧潩-潰潲潳潶潷潸潺-澀澂澄-澉澋-澎澐澒-澗澞澠-澴澶澸澹澺澼澽澿-濄濆-濏濔濕濘濛-濤濦-濩濫-濲濴濷濺濻濼濾-瀁瀄-瀇",
  "瀉-瀏瀑瀔-瀝瀟-瀤瀦-瀫瀯-瀵瀷-瀼瀾-灆灈灉灊灌灑灒灕-灘灚灛灝-灦灨-火灰灱灴灶灸灺灼災炂-炆炊炎炑-炖炘炙炚炟炡炤炩炫-炱炳炴炵炷炸為炾烅-烈烊烋烍烎烏烑-烔烗-烚烜烝",
  "烞烠烡烢烤烯烰烳烴烶-烽烿焀焂焄焆焉-焎焐焓焗焙-焜焞-焣焥焦焨焮-焲然焺煁-煄煆煇煉煋-煎煐煒煓煔煖煘煙煚煜-煪煬煮煰煲煸煻煽熀熁熂熄-熇熉熊熏熐熒熔熗熙-熡熤熥熧-熪熬",
  "熯-熳熵熸熹熼-燋燎燏燐燒燔燕燖燘-燜營-燢燤-燨燬燭燮燰燱燲燴燸燹燻-燿爁爂爃爅爆爇爊爌爍爐爓爔爙爚爛爝爞爟爢爣爦-爪爬爭爰爵父爸-爻爽爾爿牁牂牄牆-牌牏牒牓牖牘-牛牝-牣牧",
  "物牪牬牮牯牰牲牳牴牶-特牻-犁犄犅犆犈犉犋-犎犐-犓犕-犘犚犛犝犞犡-犪犬犮犯犰犴犵犺犽犿-狆狉-狌狎狐狑狒狔狖-狚狜狟狠狡狣狤狦狨-狫狳狴狶-猁猇猈猊猋猌猏猑猒猓猖-猙猛-猞",
  "猢猣猥猦猧猩猭猰-猷猺猻猼猾猿獀獂-獅獉獊獌獍獎獐獑獒獗-獛獝-獢獥-獬獮獯獰獲獳獵-獸獺-王玎玒-玗玝玟-玢玤玥玦玨玩玫玬玭玲-玹玻玼玾玿珀珂珃珅-珈珊-珍珒珓珔珖-珞珠珣珥",
  "珧-珫班珮珴珵珶珸珺珼-琁球-琍琖琚琛琝琠-琦琨-琶琺琿-瑂瑄瑆瑊瑋瑍-瑒瑔瑕瑗瑙-瑜瑞瑟瑢瑣瑤瑧瑩瑪瑭-瑳瑵瑹瑼-璁璃璅-璋璐璒璔璕璗璘璚璜璞-璡璣璥-璫璭璯-璲璵-璸璺璻",
  "璽-瓃瓅瓊瓋瓏瓔-瓦瓨瓩瓬瓮瓴-瓷瓻瓽-甀甂甃甄甇甈甋甌甍甏-甘甚甜甝生甡產甥甦用-申男-町甽-畀畇畈畋界畎畏畔留-畝畟畢-畦番畫畬畯異當-畹畽-疀疄疆疇疊疋疌疏疐疑疔疕疘疙疚",
  "疝疢-疥疧疪疫疰疲疳疵疶疸-痂痄病症痊-痒痔痕痗-痛痝-痤痦痧痭痯-瘁瘃瘈-瘍瘏瘐瘑瘓-瘖瘙-瘩瘭瘯-瘵瘸瘺瘼瘽療癃癆-癉癌癐癒癓癖-癚癜癟-癢癤癥癩癪癬癭癮癰癱癲癵癸癹登-癿",
  "皁皂的皆-皋皎皏皒皓皕皖皙-皞皤皦皪皫皭-皰皴皵皸皺皻皽皾皿盂-盆盈盉益盍盎盒盓盔盚-盟盡監-盧盩盪盬-盵盷-盼盾省眃眄眅眇-看眐-眓眕眙眚眛眝真眠眢眣眥眧眨眩眭眯眱-眾睄-睇",
  "睊-睏睒睔睕睖睙-睜睞-督睥-睯睹睼-瞅瞇瞈瞉瞋-瞏瞑瞕瞗瞙-瞣瞥瞧瞨瞪-瞭瞰-瞷瞺-瞽瞿矂矄矇矉矊矌-矐矓矔矕矗-矜矞矠矢矣知矧矨矩矬-石矷-矽砂砃砅砆砉砌-研砝砟-砣砥-砵",
  "砷砸硃硅硈硉硊硌硍硎硐硒硜硝硞硠硢硤硥硨-硱硹硻硼硾硿碀碃-碇碉碌碎碏碑碓-碚碞-碥碧-碭碰碲碳碴確碻碼碾磁磃磄磅磈-磑磔磕磚磛磝-磣磥磧-磪磬磭磯磲磳磴磷磹-磿礁礂礄礅礉礌礎",
  "礐-礔礗礙礛-礞礡礣-礭礯礱礵礸礹示礽-祂祄-祌祏-祗祚-祡祣祤祥祧-祫祭祰祲祳祴祹祺祼祽祿禁禂禈禊禋禍-禐禒-禘禚禛禜禠禡禢禤禦禧禨禪-禮禰-禴禶-离禽-私秅秈秉秋种秎秏科秒",
  "秕秖秘秜-秠秣秤秦秧秩-秮秶秷秸秺移稀稂-稅稈稊-稍稐-稕稗-稜稞稟稠稢稦稨稫種-稱稷稹稻稼稽稿穀穄穆穇穈穊-穎穔穖穗穘穚穛穜穟-穢穧穨穩穫-穮穰穱穴穵究穸-穻穾-突窄-窌窏窐",
  "窒窔-窙窞窟窠窢窣窨-窬窮窯窱-窸窺窾-竁竄竅竇竊立竑竘站竟章竣-竦竫竭竮端競竷竹竺竻竽竿笀笁笄笅笆笈笉笊笎-笓笘-笛笝笞笠笢-符笨笪-笵笸笻筀筄-筒答策筘筠筡筣-筧筩筭筮",
  "筰-筸箂箄箅箇箈箊-箑箔-箙箛箜箝箠管箤箬箭箯箱箴箵箷箸箹箾節篁範篆篇築-篌篎篔篕篘-篫篰-篴篷篸篹篻篽-簃簅簆簇簉-簑簙簜-簣簥-簭簰簳簷簸簹簻-籀籃籅籇-籊籌籍籐籓籔籗",
  "籙-籜籟籠籣-籧籩-籬籮籯籲米籵籸籹籺籽籿粀粁粄粅粈粉粊粌粍粑粒粔-粘粞粟粡粢粣粥粨粯粱-粵粹-粿糅糈糊糋糌糎糐糑糒糔-糗糙糜-糠糢糧糨糪糬糮-糲糴糶糷糸系糽糾紀-索紨紩紫紬",
  "紮-紳紵紶紸-絇絊絎-絖絘絛絜絞絟絡絢絣給-絫絭-絳絹-絽絿綀綁綃-綆綈綌-綏綑-綔綖綜-綣綦綧綩綪綬-網綴綵綷-緂緄-緇緉-緌緎緒緗-緛緝-緡緣緦-緪緬緮-練緶緷緹緺緻縃",
  "縈-縗縚-縥縩縪縫縭-繉繌繐-繚繜繞-繣繨-繫繭繯繰繲-繾纀纁纂纆纇纈纊-纍纏纑纓-纜缶缸缹缺缽缾缿罃罄罅罈罊-罍罏罐网罔罕罘罛-罡罣罥-置罰署罳罵罶罷罹-罿羃羅-美羑羒羔羕羖",
  "羚-羞羠羡羢群-義羬羭羯-羳羵-翃翅翇翉-習翔翕翗翛翜翞-翣翥翦翨-翵翷翸翹翻-老考-耇耋-耒耔-耙耛耜耞耟耡耤耦耨耩耪耬耰耳-耷耹耽耾耿聃聆聇聈聊聏-聒聖聘聚聜聝聞聤聧聬",
  "聯-聳聵-聹聽聾聿肂肄-肇肉-肌肏肐肒肓肕肖肘-肝股肢肣肥肩肪肫肭肮肯肱育肴肵肸肺胂-胅胇-胊背-胑胔-胞胠胡胣-胦胭胯-胵胸-胾脀脁脂脅脆脈脊脕脖脘脙脛脝脞脟脡-脥脧脩脫脬脭",
  "脯脰脹脺脽脾腃腄腆腇腊-腕腛腜腞腠腡腢腤-腧腩腫腮-腴腶-腺腿膀膂膃膆-膍膏膕膗-膠膢膣膦-膩膫膬膮膰-膵膷膹-臀臂-臇臉臊臌臍臏-臒臕臗-臛臝-臣臥-自臬臭臮臲至致臷-臼",
  "臾-舂舄舅與-舍舐舑舒舔舕舖舛-舢舥舨航舫般舯舲-舺舼舽舿艀艂艄艅艇艉艋艎-艓艕-艜艞艟艡艣艤艦艨艩艫-良艱色艴艵艷艸艼-芀芃芄芅芊芋芍-芔芘-芛芝-芥芧芨芩芫-花芳-芾苀苂苃",
  "苑-苗苙苛苜苞-苡苣-苨苪-苭苯-苶苹苺苻苾茀-茉茌茍茖茗茙茛茜茞茠茢茤-茭茯茱-茼茿-荅荇-荔荖荳-荸荺-荿莁莃莆-莐莒-莛莝莞莠莢-莫莮莯莰莽莿-菌菎菏菑菔-菙菛-菥菧-菬",
  "菮-菶菸-菿萁萃萄萆萇萉-萓萛萣萩萫萬萭萯-落萿葀葂-葇葉葋-葎葐葑葒葔葖著葙葚葛葝-葡董葥-葩葫-葰葳-葺葽葾蒂蒆蒍-蒑蒔蒗-蒢蒤蒧-蒬蒮-蒲蒴蒶蒸-蒼蒿-蓂蓄-蓇蓉-蓔蓖蓗",
  "蓛蓧-蓬蓮-蓴蓶蓷蓹-蔀蔂蔆-蔏蔑-蔚蔜-蔡蔣-蔱蔻蔽蔾蕀蕁蕃-蕊蕍蕎蕑蕓-蕙蕛蕝蕞蕠-蕮蕱蕵-蕼蕾薀-薑薔薕薖薘-薤薦-薪薯薰薱薳-薺薽-藀藂-藉藋藍-藒藕藗-藚藜-藟藡-藦",
  "藨-藭藯-藲藶-藻藽-蘁蘄-蘇蘉-蘌蘑蘗-蘜蘞-蘧蘩蘪蘬蘭蘮蘱-蘶蘸-蘼蘾蘿虀虃虆虇虈虋-虎虐虒-虖虙虛虜虞號虡-虥虧-虫虭-虱虳虴虷虹-虼蚅蚆蚇蚊-蚎蚐蚑蚓-蚚蚜蚝蚞蚡-蚥",
  "蚧-蚪蚯蚰蚱蚳-蛉蛋蛌蛐蛑蛓蛔蛖-蛟蛢蛣蛤蛦蛨-蛭蛵-蛻蛾蜀-蜎蜑蜒蜓蜘-蜜蜞蜠-蜪蜬蜭蜮蜰-蜵蜷蜸蜺蜻蜼蜾-蝃蝆蝌-蝯蝳-蝻螁-螅螇螈螉融螏-螔螖螗螘螚-螟螢螣螤螪-螰螲-蟀",
  "蟂-蟆蟈-蟌蟑-蟔蟗蟘蟙蟛-蟨蟪-蟭蟯蟲蟳蟴蟶蟷蟹-蟼蟾-蠃蠅蠆蠈-蠍蠐蠑蠓-蠗蠙蠛蠜蠝蠟-蠦蠨-蠬蠮-蠳蠵-蠹蠻-衁衃衄衈衊-衎衒術衕衖街衙衚衛衝衡衢衣衧-衫衭衯-衲衴-衷衹",
  "衼-袃袈袉袋-袎袑袒袓袕-袛袞袟袡袢袤袧袨袪被袬袱袲袶-袺袼袽袾裀裁裂裉-裎裐裒裔-裟裡裧裨裫裬裮-裴裶-裾褁褂褅褆複褉-褌褎褐-褚褞褟褡褢褣褥褦褧褩-褳褵-褸褻-褾襁襂襄襆襉",
  "襋襌襏-襓襖-襤襦襩-襯襱-襴襶襹-襼襾西要覂覃覅覆覈見規覓覕-覘覛-覟覡-覤覦親覬-覯覲覶覷覹覺覽-觀角-觖觙-觝觟-触觨觩觫觬觭觰-觴觶觷觸觺觻觼觾觿言訂訃訄訇計訊訌討-訓",
  "訕-記訛訝訞訟訢訣訥訧訪訬設訰許訴訶訹-証訾-詁詄詅詆詈詊詌-詒詔-詙詛詞詠-詣試詨詩詫-詮詰-詷詹-詼詿誁-誇誋誌認誏誑誒誓誕誖誘誙誚語誠誡誣-誨說誫誰課誶誸-諀諂-諉請諍諏",
  "諑-諙諛-諢諤諦諧諨諫諭-諸諺諻諼諾-謂謄-謈謊謋謍-謞謠謢-謨謪謫謬謮-謱謳謵謶謷謹-謾譀譁譂譅-譋譎-譚譜譝譟譠譣譥-譨譪-譭譯議譴護-譻譽-讀讂讄讅讆讈變讋讌讎讒-讖讘讙",
  "讚讜讞讟谷谹谻-谿豁豂豃豅-豐豔-豗豚豜豝豟象豢豤豥豦豨-豭豯-豳豵-豻豽貀貁貂貄貅貆貉貊貌貍貏-貕貗-貚貜貝貞負-貥貧-責貯貰貲-賅資賈賊賌賏賑賒賓賕賗賙賚賜-賨質賬賭賮賰賱",
  "賳賴賵賸-賾贀贂贄-贊贍贏贐贓-贗贙贛赤赦-赩赫-走赲赳赴赶-赹赻赽趀趁趄超趉越趌-趖趙趛趜趟趠趡趣趥趧趨趪-趯趲-趷趹趺趼趾趿跁跂跅-跈跋-跑跓跕-距跟-跤跦-跬跮-跴跺",
  "跼-踀踂-踇踉踊踍踏-踧踩踫踮踰踱踳-踶踸踹踼-蹂蹄蹅蹇-蹎蹐蹓-蹗蹙-蹧蹩蹪蹬蹭蹯蹲蹳蹴蹶蹸蹺蹻蹼躁躂躄-躎躐-躘躚躝-躡躣-躦躨-躬躲躺躽軀軂軉-軍軏軑-軔軗軘軛-軡軥-軩",
  "軫軬軮軯軱軴-軼軾-較輅-輋輍輎輐-輘輚-輠輣-輦輩輪輬輮輯輲-輹輻輾輿轀轂-轉轋轍-轛轝-轤辛辜辟辣辦辨辭-農辴辿迂迄迅迆迉迋迍迎近-迗迠-迦迨迪迫迭迮述迴-迸迺-逆逋逌逍透",
  "逐逑途-逗這-逤逭逮逯週進逴逵逶逸逼-逿遁遂遄遇遉遊運遍-違遘遙遛-遞遠遢遣遧遨適遫遭-遰遲-邈邊邋邍邏邐邑邔邕邗邘邙邛邞-那邥邦邧邪邯-邶邸邽邾邿郁郃郅郇郈郊郋郎郔-郝郟-郥",
  "部-郭郯-郵郹-鄉鄋鄍-鄒鄔鄖-鄤鄦-鄶鄸-鄻鄾-酁酃-酐酒酓酕-酘酚酟-酥酨酩酪酬酮酯酲-酵酷-酺醀-醇醉醊醋醍醏-醓醙-醣醥醧醨醪-醵醷醹醺醼醽醾釀-釃釅釆采釉釋-金釓釔釕",
  "釗-釚釜針釢釣釤釦-釮釱釳釴釵釷釸釹釽釿-鈇鈉鈊鈌鈍鈏-鈒鈔-鈗鈙鈚鈜鈞鈣-鈧鈭鈮鈰-鈴鈶-鈺鈽-鉀鉅鉆鉈-鉔鉖鉗鉚鉛鉞鉠鉡鉣-鉧鉬鉭鉯鉰鉲鉶鉸-銀銂銃銅-銈銊-銎銑銓-銝",
  "銠-銬銲-銷銻銼鋀-鋓鋕鋗鋘鋙鋝-鋡鋤鋦-鋪鋮-鋱鋷-鋼鋾-錂錄錆錈錉錋-錐錒-錖錘-錛錝-錫錭錮錯錳-錶錸錹錼鍆鍇鍉-鍒鍔-鍜鍞鍠鍡鍣鍤鍥鍧鍪鍬鍭鍰鍱鍵鍶鍷鍹-鍼鍾鎀鎂鎃鎈鎉",
  "鎊鎌-鎏鎑鎒鎔-鎛鎝鎞鎟鎡-鎪鎬鎮-鎵鎷鏀鏂鏃鏄鏇鏈鏊鏌-鏒鏔-鏚鏜-鏟鏡-鏤鏦鏧鏨鏬鏮鏵-鐀鐃鐆鐇鐉-鐖鐘鐙鐠鐨-鐬鐮鐰-鐳鐵-鐽鐿鑀鑄-鑌鑏-鑒鑕鑗鑝鑞鑠鑢鑣鑤鑨-鑫鑭-鑸",
  "鑼-钃長镺-镽門閂閃閆閈閉開-閔閘閛閜閞閟閡閣閤閥閨閩閫-閮閰閱閵閶閷閹-闀闃闅-闍闐-闖闚闛關闞-闥阜阞阠-阤阨阪阬-防阹-阽阿陀陂陃附陊-陑陓陔陘陛-陟陡-除陪-陭陯-陸陼",
  "陽陾隀隃-隋隍階隑-隕隗隘隙際障隞隡隢隤隧-險隬隮隰隱隳隴隸隹隻隼隿-雎雒-雟雡離難雥雨雩雪雯-雲雵-電雽雿需霂霄-霉霋霍-霓霖霘霙霜-霠霢-霬霮霯霰露霵霸霹霺霽霾霿靂靃靄",
  "靆-靉靋青靖靘靚靛靜非靠靡面靦靨革靪靬靮靰靲靳靴靶靷靸靺-鞅鞈鞊鞋鞍鞎鞏鞔鞗-鞚鞜鞝鞞鞠-鞦鞨鞪-鞮鞳鞶鞷鞹鞻鞿韁韃-韇韉韋-韐韓-韙韜-韟韡韣韥韭韰韱音韶韸-韻韽-須頊頌-頓",
  "頖頗領頛-頞頠頡頤頦-頩頫頭頯頰頲頵頷頸頹頻顁顃-顆顈顉顊題-顓顗願顙顛-顠顢-顥顧顩顪顫顯-顴風颩颬-颯颱颲颳颶颸颺-飂飄飆飉飋飌飛食飢飣飥飧飩飪飫飭飯飲飴飶飹飺飼飽飾餀餂餃",
  "餅餇-養餌餐-餘餚餛餞餟餡餤餥餧-餳餵餺餼-餿饁饃饅饇饈饉饋饌饎饐-饙饛饜饞饟饡首-香馜馝馞馡馣馥-馨馫-馵馹馺馻馽駁駂駃駇駉駋-駙駛駜駝駟駢-駥駧駩駪駬駭駮駰駱駴駶-駿騁-騇",
  "騉騊騋騍騎騏騑騔騕騖騙-騞騠騢-騥騧騩-騮騰騱騲騴-騺騽-驆驈驉驊驌-驐驒-驗驙驚驛驞驟驠驢驤-驫骨骫骭骯骰骱骳骴骷骸骹骻骼骾-髂髆髇髊髍髏-髖高髜髟髡髣髦髧髫-髯髱髲髳髶髷",
  "髹-髾鬁鬃-鬆鬈鬊-鬎鬐鬑鬒鬕-鬚鬞鬟鬠鬢-鬥鬧鬨鬩鬫鬮鬯鬱鬲鬳鬵鬷鬺鬻鬼鬾鬿魁-魆魈魊-魏魑魒魔魕魖魘-魛魟魠魡魤魦魧魨魬魯魰魱魴-魷魺-魾鮀鮂鮅-鮈鮐-鮓鮕鮚鮛鮞鮠鮡鮢鮤鮥",
  "鮦鮨鮪鮫鮭鮮鮯鮵鮶鮸鮹鮽鮿鯀鯁鯃鯄鯆-鯊鯓-鯗鯙-鯜鯞鯠鯡鯢鯤-鯨鯪鯫鯬鯰鯷鯸鯽鰅-鰉鰋鰍鰎鰒鰓鰔鰗鰜鰝鰡鰣鰤鰥鰨鰩鰫鰬鰭鰱-鰴鰶鰷鰹鰻-鱁鱄鱆鱈-鱎鱐鱒鱔-鱙鱞鱟鱠鱢鱣鱦鱧鱨",
  "鱭鱮鱱鱳鱴鱵鱷-鱺鳥鳦鳧鳩鳪鳭鳱-鳷鳹-鳽鳿鴀鴃-鴉鴐鴒鴔鴕鴗鴘鴙鴛鴝-鴠鴢鴣鴥鴦鴨鴩鴭-鴱鴳鴶鴷鴸鴻鴽-鵃鵅鵊鵋鵌鵏鵑-鵔鵖-鵝鵟鵠鵡鵧-鵬鵯-鵵鵷鵸鵹鵻鵽鵿-鶂鶄-鶌鶐鶒鶔",
  "鶖-鶤鶦-鶪鶬鶭鶯鶱-鶼鶾鶿鷁鷂鷃鷅鷇鷈鷊-鷓鷕-鷟鷡-鷦鷨鷩鷫-鷰鷲-鷻鷽-鸇鸉鸋鸍鸏-鸕鸗鸙鸚鸛鸝鸞鹵鹹鹺鹼鹽鹿麀麂麃麆-麎麑-麔麗麙-麝麟麠麡麤麥麧麩麭麮麰麴-麷麻麼麾黀",
  "黂黃黈黌-黑黓-黖默黚-黠黤-黨黫黭-黰黲-黷黹-黽黿鼀鼁鼆鼇鼉鼊鼎鼏鼐鼒鼓鼕鼖鼘-鼜鼞鼠鼢-鼥鼨-鼸鼻鼽鼾齀-齃齆-齏齒齔-齙齛-齡齣-齧齪齫齬齮-齲齴-齻齾龍龐龑龒龔龕龘龜",
  "龠龢龤\ufa0c\ufa0d︰︱︳-﹄﹉-﹐﹒﹔-﹗﹙-﹦﹩﹪﹫！＃-＆（-Ｚ＼＿ａ-｝､\uffe3"]

/-- The characters of KS X 1001 (Korea) other than syllables of Hangul. -/
def ksX1001 : List String := [
  "¡¤§\u00a8ª\u00ad®°-\u00b4¶-º¼-¿ÆÐ×ØÞßæð÷øþđĦħıĲĳĸĿ-łŉŊŋŒœŦŧ\u02c7\u02d0\u02d8-\u02db",
  "\u02ddΑ-ΡΣ-Ωα-ρσ-ωЁА-яё―‘’“”†‡‥…‰′″※⁴\u207f₁-₄€℃℉ℓ№℡™ΩÅ⅓⅔⅛-⅞Ⅰ-Ⅹⅰ-ⅹ←-↙⇒⇔∀∂∃∇∈∋∏∑√∝∞∠∥∧-∬∮",
  "∴∵∼∽≒≠≡≤≥≪≫⊂⊃⊆⊇⊙⊥⌒①-⑮⑴-⒂⒜-⒵ⓐ-ⓩ─-┃┌-╋▒■□▣-▩▲△▶▷▼▽◀◁◆◇◈○◎-◑★☆☎☏☜☞♀♂♠♡♣♤♥♧-♪♬♭\u3000-〃〈-】〓〔",
  "〕ぁ-んァ-ヶㄱ-ㆎ㈀-㈜㉠-㉻㉿㎀-㎄㎈-㏊㏏㏐㏓㏖㏘㏛㏜㏝一丁七万-下不丑且丕世丘丙丞中串丸丹主乂乃久之乍乎乏乖乘乙九乞也乫乭乳乶乷乾亂了予事二于亐云互五井亘些亞亡亢交亥亦",
  "亨享-亮亶人什仁仄仇今介仍仔-仙仝仟代令以仰仲件价任企伉伊伋伍-休伯伴伶伸伺似伽佃但佇佈位-佑何余-作佩佯佰佳佶佺佾使侁侃侄來侈侊例侍侏侑侖侘供依侮侯侵侶便係促俄俉俊俎俑俓俔俗",
  "俚保俟俠信修俯俱俳俵俸俺倂倆倉個倍們倒倖候倚倜倞借倡倣値倦倧倨倪-倭倻偃假偈偉偏偕做停健側偵偶偸傀傅傍傑傘備催傭傲傳債傷傾僅僉僊像僑僕僖僚僞僥僧僭價僻僿儀儁億儆儉儒償儡優儲儷儺",
  "儼兀允元-光克-兎兒兜兢入內-兮共兵-典兼冀円冊再冒冕冗冠冥冪冬冶冷冽凄准凉凋凌凍凜凝凞凡凰凱凶凸凹出函刀刃分切刈刊刎刑列初判別利刪刮到制-刻剃則削-前剔剖剛剝剡剩剪副割創剽剿",
  "劃劇劈劉劍劑劒力功加劣劤助努劫劾勁勃勅勇勉勍勒動勖勘務勛勝勞募勢勣勤勳勵勸勺勻勾勿包匈匍匏匐匕化北匙匠匡匣匪匯匹匿區十千卄升-半卍卑-協南博卜卞占卦卨卯印危却卵卷卽卿厄厓厘厚原",
  "厠厥厦厭去參又-友反叔取受叛叡-句叩-叭可-右司吃各合吉吊同-向君吝吟吠否吩含吳吸吹吻吼吾呂呈告呑周呪呱味呵呻呼命咀咆和咎咐咤咨咫咬咳咸咽哀品哄哈哉員哥哨哭哮哲哺唄唆唇唎唐唜唯",
  "唱唵唾啄商問啓啖啞啣啼喀善喆喇喉喊喘喙喚喜喝喧喩-喬單嗅嗇嗔嗚嗜嗟嗣嗤嗽嗾嘆嘉嘔嘗嘯嘲嘴嘶噓器噫噴嚆嚥嚬嚮嚴嚼囊囍囑囚四回因困囹固圃圄圈國圍園圓圖團土在圭地圻址坂均坊坍坎坐坑坡",
  "坤坦坪坮坰坵坼垂垈型垓垠垢垣埃埇埈埋城域埠埰埴執培基埼堀堂堅堆堈堉堊堞堡堤堧堪堯堰報場堵堺塊塋塏塑塔塗塘塚塞塡塢塤塵塹塼塾境墅墉墓墜增墟墨墩墮墳墺墻墾壁壅壇壎壑壓壕壘壙壞壟壤士",
  "壬壯壹壺壻壽夏夔夕外夙多夜夢大天太夫夭央失夷夾奄奇奈奉奎-契奔奕套奚奠奢奧奪-奮女奴奸好如妃妄妊妓妖妗妙妥妨妬妹妻妾姃姆姉始姐姑姓委姙姚姜姝姦姨姪姬姮姸姻姿威娃娑娘娛娜娟娠娥娩",
  "娶娼婁婆婉婚婢婦媒媚媛媤嫁嫂嫄嫉嫌嫡嫦嫩嬅嬉嬋嬌嬖嬪孀孃子孑孔孕字存孚孜孝孟季孤孩孫孰孱孵學孺孼宅宇守安宋完宏宓宕-宜客-宦宬宮宰害-家宸容宿寀寂-寇富寐寒寓寔寗寞察寡寢寤-審",
  "寫寬寮寯寵寶寸寺封射將-尋對導小少尖尙尤尨就尸-尼尾尿局居屆屈屋屍屎屑展屛屠屢層履屬屯山屹岐岑岡岩岫岬岱岳岵岷岸岺岾峀峙峠峨峯峰峴島峻峽崇崍崎崑崔崖崗崙崧崩嵋嵌嵐嵩嵬嵯嶇嶋嶝嶠",
  "嶢嶪嶸嶺嶼嶽巍巒巖川州巡巢工-巨巫差己-巴巷巽巾市布帆希帑帖帙帛帝帥師席帳帶常帽帿幀幄幅幇幌幕幟幡幢幣干平年幷幸幹幻-幾庄庇床序底店庚府庠度座庫庭庵-庸庾廂廈廉廊廐廓廖廚廛廟廠",
  "廢廣廬廳延廷建廻弁弄弊式弑弓弔引弗弘弛弟弦弧弩弱張强弼彈彊彌彎彖彗彙彛形彦彧彩-彭彰影彷役彼彿往征待徇徊律後徐徑徒得徘徙從徠御徨復循微徵德徹徽心必忌忍忖-忙忠快念忽忿怏怒怖怜思",
  "怠怡急性怨怪怯恁恂恃恍恐恒恕恙恝恢-恥恨恩恪恬恭息恰悅悉悌悍悔悖悚悛悟悠患悤悧悰悲悳悴悶悸悼悽情惇惑惚惜惟惠惡惰惱想惶惹惺惻愁愆愈愉愍愎意愕愚愛感愧愰愴愷愼愾愿慂慄慇慈慊態慌慓",
  "慕慘慙慝慟慢慣慤慧慨慫慮慰慶慷慽慾憁憂憊憎憐憑憔憘憙憚憤憧憩憫憬憮憲憶憺憾懃懇-懋懦懲懶懷懸懺懼懿戀戇戈戊戌戍戎成我戒或戚戟戡截戮戰戱戴戶戾-扁扇扈扉手才打托扮扱扶批扼承技抄抉",
  "把抑抒投抗折抛披抱抵抹押抽拂拇拈拉拌拍拏拐拒拓拔拖-拙招拜括-拯拱拳拷拾拿持指按挑挫振挺挻挽挾捉捌捏捐捕捧捨据捲捷捺捻捿掃授掉掌排掖掘掛掠採探接控-措揀揄揆描提揖揚換握揭揮援揶",
  "揷損搏搔搖搗搜搢搬搭携搾摘摠摩摯摸摹摺撈撑撒撓撚撞撤撥撫播撮撰撲撻擁擄擅擇擊操擎擒擔擘據擡擢擥擦擧擬擲擴擺擾攀攄攘攝攣攪攫攬支收-改攻放政故效敍敎敏救敖敗敞敢散敦敬敭敲整敵敷數",
  "敾斂斃斅文斌斐斑斗料斛斜斟斡斤斥斧斫斬斯新斷方於施旁旅旋旌族旒旗无旣日旦旨早旬旭旱旴旺-旽旿昆昇昉昊昌明-昑易昔昕昞星映春昧昨昭是昰昱昴昶昺昻晁-晄晉晋晏晙晛晝晞晟晤-晩晫普景",
  "晳晴晶晷晸智暄暇暈暉暎暐暑暖暗暘暝暠暢暫暮暲暳暴暹暻暾曄曆曇曉曖曙曜曝曠曦曰曲曳更曷-曺曼曾替最會月有朋服朔朕朗望朝朞期朦朧木未-朮朱朴朶机朽杆杉李-村杓杖杜杞束杭杯杰東杳杵杷",
  "杻松板枇枉枋枏析枓枕林枚果枝枯枰枳架枷枸枾柄柏-柔柚柝柩柬柯柰柱柳-柶査柾栒栓栖栗校栢株栯核根格栽桀-桃案桎桐桑桓桔桭桶桿梁梅梏梓梔梗條梟梡梢梧梨梭梯械梱梳梵梶棄棅棉棋棍棒棕棗",
  "棘棚棟棠棧棨森棲棹棺椀椅植椎椒椧椰椽椿楊楓楔楕楗楙楚楞楠-楣楨楫業楮楯極楷楸楹榕榛榜榥榧榮榴榻槁槃構槌槍槐槨槪槻槽槿樂樊樑樓樗標樞樟模樣樵樸樹樺樽橄橈橋橒橓橘橙機橡橫檀檄檉檍檎",
  "檗檜檢檣檳檻櫂櫃櫓櫚櫛櫶櫻欄權欌欒欖欠次欣欲欺欽款歆歇歌歎歐歟歡-武歪歲歷歸死歿殃殄殆殉殊殖殘殞殮殯殲段殷殺殼殿毁毅毆毋母每毒毓比毖毗毘毛毫毬氈氏民氓氣水氷永氾汀汁求汎汐汕汗汚",
  "汝-池汨汪汭汰汲汶決汽汾沁沂沃沅-沈沌沐沒-沖沙沚沛沫沮河沸油治-沿況泂泄泉泊泌泓法泗泛泡波泣泥注泫泮泯泰泳洋洌洑洗洙洛洞津洧洩洪洲洵洶洸洹活洽派流浙浚浜浣浦浩浪浬浮浴海浸浹浿",
  "涅涇消涉涌涍涎涑涓涕涯液涵淀淃-淇淋淏淑淘淙淚淞淡淨淪淫淮深淳淵混-添渗渙渚減渟渠渡渣-渦渫測渭港渲渴渶游渺渼渽渾湃湄湊湍湖湘湛湜湞湟湧湫湮湯湲湳湺源準溜溝溟溢溥溪溫溯溱溶溺滂",
  "滄滅滉滋滌滎滑滓滔滯滴滸滾滿漁漂漆漏漑演漕漠漢漣漫漬漱漲漸漿潁潑潔潗潘潚潛潞潟潢潤潭潮潰潺潼潽潾澁澄澈澍澎澐澔澗澣澤澧澮澯澱澳澹澾激-濃濊濕濚濟濠濡濤濩濫濬濯濱濾瀁瀅瀆瀉瀋瀏瀑",
  "瀕瀘瀚-瀟瀣瀧瀨瀯瀷瀾灌灐灑灘灝灣火灰灸灼災炅炊炎炒炘炙炚炡炤炫炬炭炯炳炷炸点烈烋烏烘烙烝烟烱烹烽焄焉焌焙焚焞無焦焰然煇煉煊煌煎煐煖煙煜煞煤-照煩煬煮煽熄熉熊熏熒熔熙熟熢熬熱熹",
  "熺熾燁燃燈燉燎燐燒燔燕營燥燦燧燭燮燻燼燾燿爀爆爐爛爪爬爭爰爲爵父爺爻爽爾牀牆片版牌牒牘牙牛牝牟牡牢牧物牲特牽犀犁犢犧犬犯狀狂狄狎狐狗狙狡狩狸狹狼狽猊猖猛猜猝猥猩猪猫猶猷猾猿獄獅",
  "獐獒獗獨獪獰獲獵獸獺獻玄玆率玉王玎玔玖玗玘玟玧玩玭玲玳玹珀珂珉珊珌珍珏珖珙珝珞珠珣-珦珩珪班珷珹珽現琁球琅理琇琉琓琛琠琡琢琥琦琨琪琫琬琮琯琰琳-琶琸琺琿瑀瑁瑃瑄瑋瑕瑗瑙-瑜瑞瑟",
  "瑠瑢瑤瑥瑨瑩瑪瑯瑾璂璃璇璉璋璘璜璞璟璡璣璥璧璨璪環璲璵璹璽璿瓆瓊瓏瓔瓘瓚瓜瓠瓢瓣瓦瓮瓷甁甄甑甕甘甚甛生産甥甦用甫甬田-申男甸町畇界畏畑畓畔留畛畜畝畢略畦番畯異畵當畸畺畿疆疇疊疋",
  "疎疏疑疝疥疫疱疲疳疵疸疹疼疽疾痂病症痍痒痔痕痘痙痛痢痰痲痴痺痼瘀瘍瘙瘟-瘢瘤瘦瘻療癌癎癒癖癡癤癩癬癰癲癸登-百的皆皇皎皐皓皮皺皿盂盃盆盈益盒盖盛盜盞盟盡監盤盧目盲直相盼盾省眄眈",
  "眉看眞眠眩眷眸眺眼着睍睛睡督睦睫睹睾睿瞋瞑瞞瞥瞬瞭瞰瞳瞻瞼瞿矗矛矜矢矣知矩短矮矯石砂砒砥砦砧砬砲破硅硏硝硫硬硯硼碁碇碌碍碎碑碗碣碧碩確碻碼磁磅磊磋磎磐磨磬磯磵磻礁礎礖礪礫礬示社",
  "祀祁祇祈祉祐祖祗祚-神祠祥票祭祺祿禁禍禎福禑禦禧禪禮禱禳禹禽-私秉秊秋科秒秕秘租秤秦秧秩移稀稅稈程稍稔稗稙稚稜稟稠種稱稶稷稻稼稽稿穀穆穉積穎穗穡穢穩穫穰穴究穹空穽穿突窄窈窒窓窕",
  "窘窟窩窪窮窯窺竄竅竇竊立竗站竝竟章竣童竪竭端競竹竺竿笏笑笙笛笞笠符第笭笹筆等筋筌筍筏-筒答策筠筬筮筵筽箇箋箏箔箕算箚箝管箭箱箴箸節篁範篆篇築篒篠篤篩簇簒簞簡簧簪簫簽簾簿籃籌籍籠",
  "籤籬米粃粉粒粕粗粘粟粥粧粮粱粲粳粹精糊糖糞糟糠糧系糾紀紂約-紈紊紋納紐純紗-紛素紡索紫紬紮累細紳紵紹紺終-絆結絞絡絢給絨絪絮統絲絳絶絹絿綎綏經綜綠綢綬維綱網綴綵綸綺綻綽綾綿緇緊",
  "緋緖緘線緝緞締緡緣編緩緬緯練緻縉縊縕縛縝縞縟縡縣縫縮縯縱縷總績繁繃繆繇繒織繕繞繡繩繪繫繭繰繹繼纂續纏纓纖纘纛纜缶缸缺罌罐罔罕罪罫置罰署罵罷罹羅羈羊羌美羔羚羞群羨義羲羸羹羽翁翅翊",
  "翌翎習翔翕翟翠翡翩翫翰翹翼耀老考者耆耉而耐耕耗耘耭耳耶耽耿聃聆聊聖聘聚聞聯聰聲聳職聽聾聿肄-肇肉肋肌肖肛肝股肢肥肩肪肯肱育肴肺胃胄背胎胚胛胞胡胤胥胱胴胸能脂脅-脈脊脘脚脛脣脩脫",
  "脯脹脾腋腎腐腑腔腕腥腦腫腰腱腸腹腺腿膀膈膊膏膚膜膝膠膣膨膳膵膺膽-臀臂臆臍臘臟臣臥臧臨自臭至致臺臻臼臾舅與興舊舌舍舒舛舜舞舟舡航舫般舵舶舷船艀艅艇艙艤艦艮良艱色艶艸艾芋芍芎芒芙",
  "芚芝芟芥芦芩芬-芯花芳芷芸芹芻芼芽芿苑苒苔苕苗苛苞苟苡若苦苧英苽苾茁-茅茉茗茨茫茯茱茴茵茶茸茹荀荇草荊荏荑荒荳荷荻莉莊莎莖莘莞莢莩莪莫莽菁菅菉菊菌菓菖菜菩菫華-菲菴菹菽萃萄萊萌",
  "萍萎萩萬萱萸落葉著葛葡董葦葫葬葯葵葺蒐蒔蒙蒜蒡蒲蒸蒻蒼蒿蓀蓂蓄蓆蓉蓋蓍蓑蓚蓬蓮蓴蓼蔑蔓蔔蔗蔘蔚蔞蔡蔣蔥蔬蔭蔯蔽蔿蕁蕃蕉蕎蕓蕙蕣蕨蕩蕪蕭薄薇薏薑薔薛薦薨薩薪薯薰薺藁藉藍藎藏藕藜藝",
  "藤藥藩藪藷藺藻藿蘂蘆蘇蘊蘖蘗蘚蘭蘿虎虐虔處虛虜虞號虧虹蚊蚌蚓蚣蚤蚩蛇蛋蛔蛙蛛蛟蛤蛭蛾蜀蜂蜃蜈蜘蜚蜜蝎蝕蝗蝟蝦蝨蝴蝶蝸螂融螟螢螳螺蟄蟠蟬蟯蟲蟹蟻蟾蠅蠟蠢蠣蠱蠶蠻血衆行衍衒術街衙衛",
  "衝衡衢衣表衫衰衲衷衾衿袁袂袈袋袍袒袖袗袞被袴裁裂裏裔裕裙補裝裟裡裨裳裴裵裸製複褐褒褓褘褙褥褪褶褸褻襁襄襟襤襪襲西要覃覆覇見規覓視覡覩親覲覺覽觀角解觴觸言訂訃計訊訌討訓訖託記訛訝",
  "訟訣訥訪設許訴訶診註詐詔評詛詞詠詢詣試詩詭詮詰-詳詵詹誅誇誌認誓誕誘語誠誡誣-誦誨說誰課誹誼誾調諂諄談請諍諏諒論諛諜諡諦諧諪諫諭諮諱諶諷諸諺諾謀謁謂謄謎謐謔謖謗謙謚講謝謠謨謫謬",
  "謳謹譁證譎譏識譚譜警譬譯議譴護譽讀變讐讒讓讖讚谷谿豁豆豈豊豌豕豚象豪豫豹豺貂貊貌貝貞負財貢貧-責貯貰貳貴貶買貸費貼貽貿-賄資賈賊賑賓賚賜賞賠賢賣賤賦質賭賴賻購賽贄贅贇贈贊贍贓贖",
  "赤赦赫走赳赴起超越趙趣趨足趺趾跆跋跌跏跛距跡跣跨路跳踊踏踐踞踪踰踵蹂蹄蹇-蹊蹙蹟蹠蹴蹶躁躇躊躍躪身躬軀車-軍軒軟軫軸軻軾較輅載輒-輕輛-輟輦輧輩輪輯輳輸輹輻輾輿轄轅轉轍轎轝轟轢",
  "辛辜辣辦辨辭辯-農迂迅迎近返迦迪迫迭述迲迷迹追退-逃逅逆逈逋逍透逐逑途逕逗這通逝-連逮週進逵逸逼逾遁遂遇遊運遍過遐遑道達違遙遜遝遞遠遡遣適遭遮遯遲遵遷選遺遼遽避-還邇邈邊邏邑邕",
  "邙邢那邦邨邪邯邰邱邵邸郁郊郞郡部郭郵都鄂鄒鄕鄙鄧鄭鄲酉-酎酒酢酩酪酬酵酷酸醇醉醋醍醒醜醫醬醮醯醱醴醵釀采釉釋-金釗釘釜針釣釧釪釵鈍鈐鈑鈒鈗鈞鈴鈺鈿鉀鉅鉉鉗鉛鉞鉢鉤鉥鉦銀銃銅銑銓",
  "銖銘銜銳銶銷銹鋌鋏鋒鋤鋪鋸鋼錄錐錘錚錞-錢錤錦錨錫錮錯鍈鍊鍋鍍鍔鍛鍮鍵鍼鍾鎌鎔鎖鎚鎣鎧鎬鎭鎰鏃鏑鏞鏡鏤鏶鐄鐘鐥鐫鐵鐸鑄鑑鑒鑛鑽鑿長門閃閉開閏閑-閔閘閣閤閥閨閭閱閻閼闇闊闔闕闖關",
  "闡闢阜阡阪阮防阻阿陀陂附陋陌降限陛-陟院陣除陪陰陳陵-陸陽隅隆隊隋隍階隔隕隘隙際障隣隧隨險隱隷隻雀雁雄-雇雉雋-雎雕雖雙雛雜離難雨雩雪雯雰雲零雷雹電需霆震霑霓霖霙霜霞霧霰露霹霽",
  "靂靄靈靑靖靜非靡面革靭靴靷靺鞋鞍鞏鞠鞨鞫鞭韆韋韓韜音韶韻響-頃項順須頊頌預-頓頗領頭頰頸頹頻顆題額顎顔願顚類顥顧顫顯風颯颱飄飇飛飜食飡飢飭飮飯飴飼飽飾餃餉養餌餐餓餘餞餠館饅饉饋",
  "饌饍饑饒饔饗首香馝馥馨馬馭馮馱馳馴馹駁駐駑駒駕駙駝駟駭駱駿騁騈騎騏騙騫騰騶騷驀驃驅驍驕驗驚驛驟驢驥驩驪骨骸髓體高髥髮鬚鬧鬪鬱鬼魁-魅魏魔魚魯鮎鮑鮟鮫鮮鯉鯖鯤鯨鰍鰐鰒鰕鰥鰲鰻鱇鱉",
  "鱗鳥鳧鳩鳳鳴鳶鴉鴛鴦鴨鴻鵑鵝鵠鵡鵬鵲鶩鶯鶴鷄鷗鷲鷸鷹鷺鸚鸞鹵鹹鹽鹿麒麓麗麝麟麥麴麵麻麾黃黍黎黑黔默黛黜點黨黴鼇鼈鼎鼓鼠鼻齊齋齎齒齟齡齧齪齬齷龍龐龕龜\uf900-\ufa0b",
  "！-～￠-\uffe3￥￦"]

/-! ## Encodings -/

def eastAsian : List Encoding := [
  ⟨["shift_jis", "csshiftjis", "shiftjis", "sjis", "s_jis", "x_mac_japanese"],
    ["\x00-\x7f¥‾｡-\uff9f"] ++ jisX0208, [('¥', '\\'), ('‾', '~')]⟩,
  ⟨["cp932", "932", "ms932", "mskanji", "ms_kanji"],
    ["\x00-\u0080№℡Ⅰ-Ⅹⅰ-ⅹ∑∟∥∮⊿①-⑳〝〟㈱㈲㈹㊤-㊨㌃㌍㌔㌘㌢㌣㌦㌧㌫㌶㌻㍉㍊㍍㍑㍗㍻-㍾㎎㎏㎜㎝㎞㎡㏄㏍丨仡仼伀伃伹佖侊侒侔侚俉俍俿倞倢偀偂偆偰傔僘",
      "僴兊兤冝冾凬刕劜劦劯勀勛匀匇匤卲厓厲叝咊咜咩哿喆坙坥垬埇埈增墲夋奓奛奝奣妤妺孖寀寘寬尞岦岺峵崧嵂嵓嵭嶸嶹巐弡弴彅彧德忞恝悅悊惕惞惲愑愠愰愷憘戓抦揵摠撝擎敎昀昉昕昞昤昮昱",
      "昻晗晙晥晳暙暠暲暿曺曻朎杦枻柀栁桄桒棈棏楨榘槢樰橆橫橳橾櫢櫤毖氿汜汯沆泚洄浯涇涖涬淏淲淸淼渧渹渼湜溿澈澵濵瀅瀇瀨炅炫炻焄焏煆煇煜燁燾犱犾猤獷玽珉珒珖珣珵琇琦琩琪琮瑢璉璟",
      "甁甯畯皂皛皜皞皦睆砡硎硤硺礰禔禛竑竧竫箞絈絜綠綷緖繒纊罇羡茁荢荿菇菶葈蒴蓜蕓蕙蕫薰蠇裵褜訒訷詹誧誾諟諶譓譿賰賴贒赶軏遧郞鄕鄧釗釚釞釤釥釭釮鈆鈊鈐鈹鈺鈼鉀鉎鉑鉙鉧鉷鉸銈銧",
      "鋐鋓鋕鋗鋙鋠鋧鋹鋻鋿錂錝錞錡錥鍈鍗鍰鎤鏆鏞鏸鐱鑅鑈閒隝隯霳霻靃靍靏靑靕顗顥餧馞驎髙髜魲魵鮏鮱鮻鰀鵫鵰鸙黑\ue000-\ue757\uf8f0-\uf8f3\uf929",
      "\uf9dc\ufa0e-\ufa2d＂＇－～｡-\uff9f￠￡￢￤"] ++ jisX0208,
    [('¢', '￠'), ('£', '￡'), ('¬', '￢'), ('‖', '∥'), ('−', '－'), ('〜', '～')]⟩,
  ⟨["euc_jp", "eucjp", "ujis", "u_jis"],
    ["\x00-\x7f¥‾｡-\uff9f"] ++ jisX0208 ++ jisX0212, [('¥', '\\'), ('‾', '~')]⟩,
  ⟨["iso2022_jp", "csiso2022jp", "iso2022jp", "iso_2022_jp"],
    ["\x00-\x7f¥‾"] ++ jisX0208, []⟩,
  ⟨["iso2022_jp_1", "iso2022jp_1", "iso_2022_jp_1"],
    ["\x00-\x7f¥‾"] ++ jisX0208 ++ jisX0212, []⟩,
  ⟨["iso2022_jp_ext", "iso2022jp_ext", "iso_2022_jp_ext"],
    ["\x00-\x7f¥‾｡-\uff9f"] ++ jisX0208 ++ jisX0212, []⟩,
  ⟨["gb2312", "chinese", "csiso58gb231280", "euc_cn", "euccn", "eucgb2312_cn", "gb2312_1980",
      "gb2312_80", "iso_ir_58", "x_mac_simp_chinese", "hz", "hzgb", "hz_gb", "hz_gb_2312"],
    ["\x00-\x7f"] ++ gb2312, []⟩,
  ⟨["gbk", "936", "cp936", "ms936"],
    ["\x00-\x7f¤§\u00a8°±·×àáèéêìíòó÷ùúüāēěīńňōūǎǐǒǔǖǘǚǜɑɡ\u02c7\u02c9\u02ca\u02cb\u02d9",
      "Α-ΡΣ-Ωα-ρσ-ωЁА-яё‐–-‖‘’“”‥…‰′″‵※℃℅℉№℡Ⅰ-Ⅻⅰ-ⅹ←-↓↖-↙∈∏∑∕√∝-∠∣∥∧-∫∮∴-∷∽≈≌≒≠≡≤-≧≮≯⊕⊙⊥⊿⌒",
      "①-⑩⑴-⒛─-╋═-╳▁-▏▓▔▕■□▲△▼▽◆◇○◎●◢-◥★☆☉♀♂\u3000-〃\u3005-〗〝〞〡-〩ぁ-ん\u309b-\u309eァ-ヶ\u30fc",
      "\u30fd\u30feㄅ-ㄩ㈠-㈩㈱㊣㎎㎏㎜㎝㎞㎡㏄㏎㏑㏒㏕一-龥\uf92c\uf979\uf995\uf9e7\uf9f1\ufa0c-\ufa0f\ufa11",
      "\ufa13\ufa14\ufa18\ufa1f\ufa20\ufa21\ufa23\ufa24\ufa27\ufa28\ufa29︰︱︳-﹄﹉-﹒﹔-﹗﹙-﹦﹨-﹫",
      "！-～￠-￥"], []⟩,
  ⟨["big5", "big5_tw", "csbig5", "x_mac_trad_chinese"],
    ["\x00-\x7f"] ++ big5, []⟩,
  ⟨["cp950", "950", "ms950"],
    ["\x00-\x7f\u00af‧€∕⊕⊙║-╝╟╠╢-╩╫╬▓墻嫺恒碁粧裏銹﹑﹨～￠￡￥"] ++ big5,
    [('¢', '￠'), ('£', '￡'), ('¥', '￥'), ('•', '‧'), ('‾', '\u00af'), ('∼', '～'), ('☉', '⊙'),
      ('♁', '⊕'), ('､', '﹑')]⟩,
  ⟨["euc_kr", "euckr", "korean", "ksc5601", "ks_c_5601", "ks_c_5601_1987", "ksx1001",
      "ks_x_1001", "x_mac_korean"],
    ["\x00-\x7f가-힣"] ++ ksX1001, [('ㅤ', '�')]⟩,
  ⟨["cp949", "949", "ms949", "uhc", "johab", "cp1361", "ms1361"],
    ["\x00-\x7f가-힣"] ++ ksX1001, []⟩]

end WhileLang.Text.Encoding
